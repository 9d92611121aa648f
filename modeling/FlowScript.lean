import FlowScript.Builtin.Action
import FlowScript.Builtin.Catalog
import FlowScript.Builtin.Handlers
import FlowScript.Builtin.Pause
import FlowScript.Cli.Options
import FlowScript.Cli.Run
import FlowScript.Command.Arena
import FlowScript.Command.ArgVals
import FlowScript.Command.Label
import FlowScript.Command.Render
import FlowScript.Command.Spelling
import FlowScript.Command.Tree
import FlowScript.Dict
import FlowScript.Env.Assignments
import FlowScript.Env.Chain
import FlowScript.Env.Layer
import FlowScript.Env.Record
import FlowScript.Env.Store
import FlowScript.Host.Config
import FlowScript.Host.Files
import FlowScript.Host.Saved
import FlowScript.Host.Template
import FlowScript.Host.World
import FlowScript.Main
import FlowScript.Programs.Basic
import FlowScript.Programs.Format
import FlowScript.Programs.Launch
import FlowScript.Programs.Line
import FlowScript.Programs.Locate
import FlowScript.Programs.Shell.Run
import FlowScript.Programs.Shell.Syntax
import FlowScript.Proofs.Command.Appending
import FlowScript.Proofs.Command.Drawing
import FlowScript.Proofs.Command.Expansion
import FlowScript.Proofs.Command.Growth
import FlowScript.Proofs.Command.Registration
import FlowScript.Proofs.Command.Shape
import FlowScript.Proofs.Command.SpellingIndex
import FlowScript.Proofs.Command.SpellingTables
import FlowScript.Proofs.Command.Spellings
import FlowScript.Proofs.Command.Storage
import FlowScript.Proofs.Dict
import FlowScript.Proofs.Env.Counting
import FlowScript.Proofs.Env.Kinds
import FlowScript.Proofs.Env.Layering
import FlowScript.Proofs.Env.Merging
import FlowScript.Proofs.Env.RecordLines
import FlowScript.Proofs.Env.Sharing
import FlowScript.Proofs.Env.Views
import FlowScript.Proofs.Env.Writing
import FlowScript.Proofs.Host.Saving
import FlowScript.Proofs.Host.Stores
import FlowScript.Proofs.Programs.Forwarding
import FlowScript.Proofs.Run.Arguments
import FlowScript.Proofs.Run.Bookkeeping
import FlowScript.Proofs.Run.Contributions
import FlowScript.Proofs.Run.Defining
import FlowScript.Proofs.Run.Depth
import FlowScript.Proofs.Run.DepthLimits
import FlowScript.Proofs.Run.Designation
import FlowScript.Proofs.Run.Discipline
import FlowScript.Proofs.Run.Isolation
import FlowScript.Proofs.Run.Phases
import FlowScript.Proofs.Run.Recording
import FlowScript.Proofs.Run.Resolution
import FlowScript.Proofs.Run.Steering
import FlowScript.Proofs.Run.Traces
import FlowScript.Proofs.Run.Visits
import FlowScript.Proofs.Script.Accounting
import FlowScript.Proofs.Script.Addressing
import FlowScript.Proofs.Script.ArgumentForms
import FlowScript.Proofs.Script.ArgumentKeys
import FlowScript.Proofs.Script.Bracketing
import FlowScript.Proofs.Script.Breaking
import FlowScript.Proofs.Script.Composition
import FlowScript.Proofs.Script.Descent
import FlowScript.Proofs.Script.Folding
import FlowScript.Proofs.Script.PathGrammar
import FlowScript.Proofs.Script.PathNames
import FlowScript.Proofs.Script.Reading
import FlowScript.Proofs.Script.Segments
import FlowScript.Proofs.Script.Sequencing
import FlowScript.Proofs.Script.Termination
import FlowScript.Proofs.Script.Tokenisation
import FlowScript.Proofs.Text.ByteOrder
import FlowScript.Proofs.Text.Cutting
import FlowScript.Proofs.Text.Encoding
import FlowScript.Proofs.Text.Integers
import FlowScript.Proofs.Text.Trimming
import FlowScript.Proofs.Toml.Strings
import FlowScript.Proofs.Toml.Tables
import FlowScript.Run.Console
import FlowScript.Run.Engine
import FlowScript.Run.Event
import FlowScript.Script.Assignment
import FlowScript.Script.Block
import FlowScript.Script.Flow
import FlowScript.Script.Invocation
import FlowScript.Script.ParseError
import FlowScript.Script.Sequence
import FlowScript.Script.Walk
import FlowScript.Text.Alphanumeric
import FlowScript.Text.Blank
import FlowScript.Text.Bytes
import FlowScript.Text.Cut
import FlowScript.Text.Decimal
import FlowScript.Text.Integer
import FlowScript.Text.Number
import FlowScript.Text.Quoted
import FlowScript.Text.ShellWords
import FlowScript.Toml.Document
import FlowScript.Toml.Reader
import FlowScript.Toml.Unquoted
import FlowScript.Toml.Writer
