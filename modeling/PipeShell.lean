import PipeShell.Builtin
import PipeShell.Children
import PipeShell.Config
import PipeShell.Environment
import PipeShell.EnvironmentFile
import PipeShell.Error
import PipeShell.Execution
import PipeShell.Heredoc
import PipeShell.History
import PipeShell.Line.Expansion
import PipeShell.Line.Lexer
import PipeShell.Line.Pipeline
import PipeShell.Line.Stage
import PipeShell.Line.Token
import PipeShell.Lookup
import PipeShell.Main
import PipeShell.Name
import PipeShell.Plumbing
import PipeShell.Programs.Call
import PipeShell.Programs.Cat
import PipeShell.Programs.Count
import PipeShell.Programs.Grep
import PipeShell.Programs.GrepForm
import PipeShell.Programs.Head
import PipeShell.Programs.Installed
import PipeShell.Programs.Launch
import PipeShell.Programs.NameRules
import PipeShell.Programs.Options
import PipeShell.Programs.Printf
import PipeShell.Programs.Remove
import PipeShell.Programs.Shell
import PipeShell.Programs.Sort
import PipeShell.Programs.SortKey
import PipeShell.Prompt
import PipeShell.Redirect
import PipeShell.Script.Arithmetic
import PipeShell.Script.Condition
import PipeShell.Script.DirectoryCommands
import PipeShell.Script.Engine
import PipeShell.Script.Evaluation
import PipeShell.Script.Expansion
import PipeShell.Script.FlowCommands
import PipeShell.Script.Lexer
import PipeShell.Script.NameCommands
import PipeShell.Script.Options
import PipeShell.Script.Parser
import PipeShell.Script.Paths
import PipeShell.Script.Printing
import PipeShell.Script.ProgramSearch
import PipeShell.Script.Redirection
import PipeShell.Script.SignalCommands
import PipeShell.Script.State
import PipeShell.Script.Syntax
import PipeShell.Script.VariableCommands
import PipeShell.Session
import PipeShell.Shell
import PipeShell.Source
import PipeShell.Startup
import PipeShell.System.Descriptors
import PipeShell.System.Ending
import PipeShell.System.Errno
import PipeShell.System.FileTree
import PipeShell.System.Journal
import PipeShell.System.PathWalk
import PipeShell.System.Signal
import PipeShell.System.World
import PipeShell.System.Writer
import PipeShell.Text.Alphanumeric
import PipeShell.Text.Backspace
import PipeShell.Text.Blank
import PipeShell.Text.BreakClass
import PipeShell.Text.Cluster
import PipeShell.Text.CodeRange
import PipeShell.Text.Conversion
import PipeShell.Text.Floating
import PipeShell.Text.Integer
import PipeShell.Text.Magnitude
import PipeShell.Text.Numeral
import PipeShell.Text.Octets
import PipeShell.Text.Pattern
import PipeShell.Text.Quoted
import PipeShell.Text.Regex
import PipeShell.Text.RegexBracket
import PipeShell.Text.RegexSyntax
import PipeShell.Text.Split
import PipeShell.Text.Utf8
import PipeShell.Text.Version
import PipeShell.Proofs.Line.Grammar
import PipeShell.Proofs.Line.Shape
import PipeShell.Proofs.Line.Lexing
import PipeShell.Proofs.Line.Spelling
import PipeShell.Proofs.Run.Turns
import PipeShell.Proofs.Run.Bodies
import PipeShell.Proofs.Run.LineUse
import PipeShell.Proofs.Line.Lossless
import PipeShell.Proofs.Line.Faults
import PipeShell.Proofs.Run.FailedReads
import PipeShell.Proofs.Run.Builtins
import PipeShell.Proofs.Run.Behaviours
import PipeShell.Proofs.Run.Waiting
import PipeShell.Proofs.Run.Sessions
import PipeShell.Proofs.Run.SoundSessions
import PipeShell.Proofs.Run.Redirections
import PipeShell.Proofs.Run.BodyPipes
import PipeShell.Proofs.Run.Stages
import PipeShell.Proofs.Run.GivingUp
import PipeShell.Proofs.Run.Interrupts
import PipeShell.Proofs.Run.Reading
import PipeShell.Proofs.Line.References
import PipeShell.Proofs.Run.Exports
import PipeShell.Proofs.Line.Fields
import PipeShell.Proofs.Line.Templates
import PipeShell.Proofs.Line.Home
import PipeShell.Proofs.Run.Standing
import PipeShell.Proofs.Run.Interactive
import PipeShell.Proofs.Line.Joining
import PipeShell.Proofs.Run.BodyTexts
import PipeShell.Proofs.Run.BrokenTexts
import PipeShell.Proofs.Run.Refusals
import PipeShell.Proofs.Line.Positions
import PipeShell.Proofs.Line.Respelling
import PipeShell.Proofs.Run.BuiltinTargets
import PipeShell.Proofs.Run.Directories
import PipeShell.Proofs.Session.VariableHistory
import PipeShell.Proofs.Session.VariableLists
import PipeShell.Proofs.Run.BrokenOutput
import PipeShell.Proofs.Text.WholeNumbers
import PipeShell.Proofs.Run.Leaving
import PipeShell.Proofs.System.CommandLookup
import PipeShell.Proofs.Run.BodyExpansion
import PipeShell.Proofs.Line.Delimiters
import PipeShell.Proofs.Text.Repair
import PipeShell.Proofs.Run.PipedLines
import PipeShell.Proofs.Session.ProgramEnvironment
import PipeShell.Proofs.Text.LastNames
import PipeShell.Proofs.Line.Parts
import PipeShell.Proofs.Run.Reports
import PipeShell.Proofs.Run.Telling
import PipeShell.Proofs.Run.PlainReports
