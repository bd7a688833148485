import Statewright.Code.Expression
import Statewright.Code.Fragment
import Statewright.Code.Lexer
import Statewright.Code.Name
import Statewright.Code.Numeral
import Statewright.Code.Pattern
import Statewright.Code.Reader
import Statewright.Code.Statement
import Statewright.Code.StringValue
import Statewright.Code.Token
import Statewright.Code.Tree
import Statewright.Command.Generate
import Statewright.Command.Host
import Statewright.Command.Options
import Statewright.Command.Path
import Statewright.Command.Tree
import Statewright.Command.Usage
import Statewright.Emission.Classes
import Statewright.Emission.Deterministic
import Statewright.Emission.EventDriven
import Statewright.Emission.Header
import Statewright.Emission.Module
import Statewright.Machine.Basic
import Statewright.Machine.Binding
import Statewright.Machine.Body
import Statewright.Machine.Dispatch
import Statewright.Machine.Fields
import Statewright.Machine.Members
import Statewright.Machine.Naming
import Statewright.Machine.Program
import Statewright.Machine.Run
import Statewright.Machine.Stage
import Statewright.Machine.Typestate
import Statewright.Machine.Value
import Statewright.Machine.World
import Statewright.Main
import Statewright.Markup.Characters
import Statewright.Markup.Encoding
import Statewright.Markup.Reader
import Statewright.Markup.Tree
import Statewright.Proofs.Accepted
import Statewright.Proofs.Awaiting
import Statewright.Proofs.Beginnings
import Statewright.Proofs.Bindings
import Statewright.Proofs.BlankLists
import Statewright.Proofs.Blocks
import Statewright.Proofs.BodyBlocks
import Statewright.Proofs.BodyLines
import Statewright.Proofs.CalledFactories
import Statewright.Proofs.Callees
import Statewright.Proofs.Calls
import Statewright.Proofs.Cancellation
import Statewright.Proofs.Checks
import Statewright.Proofs.CodeTexts
import Statewright.Proofs.CommandEffects
import Statewright.Proofs.CommandRuns
import Statewright.Proofs.CompleteTables
import Statewright.Proofs.DeeperLines
import Statewright.Proofs.DeeperMargins
import Statewright.Proofs.DeeperText
import Statewright.Proofs.DefaultStates
import Statewright.Proofs.DispatchAgreement
import Statewright.Proofs.DispatchCases
import Statewright.Proofs.DispatchRules
import Statewright.Proofs.DocumentGrammar
import Statewright.Proofs.DocumentLines
import Statewright.Proofs.DocumentParts
import Statewright.Proofs.EmittedBodies
import Statewright.Proofs.EnumerationLaws
import Statewright.Proofs.Exclusion
import Statewright.Proofs.FailedCalls
import Statewright.Proofs.FieldLines
import Statewright.Proofs.FieldOrder
import Statewright.Proofs.FileTrees
import Statewright.Proofs.FinalCheck
import Statewright.Proofs.FollowedTexts
import Statewright.Proofs.FollowedTokens
import Statewright.Proofs.Forwarding
import Statewright.Proofs.FragmentChecks
import Statewright.Proofs.Generation
import Statewright.Proofs.Headings
import Statewright.Proofs.HelperNames
import Statewright.Proofs.Identifiers
import Statewright.Proofs.LabelledSpecs
import Statewright.Proofs.MergedEvents
import Statewright.Proofs.Methods
import Statewright.Proofs.MistakeLines
import Statewright.Proofs.ModuleClasses
import Statewright.Proofs.ModuleSections
import Statewright.Proofs.Names
import Statewright.Proofs.Ownership
import Statewright.Proofs.ParameterLists
import Statewright.Proofs.ParameterNames
import Statewright.Proofs.Pauses
import Statewright.Proofs.Reachability
import Statewright.Proofs.ReadSpecs
import Statewright.Proofs.Readers
import Statewright.Proofs.Rebinding
import Statewright.Proofs.Reindentation
import Statewright.Proofs.Rejections
import Statewright.Proofs.Reordering
import Statewright.Proofs.ResolvedMethods
import Statewright.Proofs.RestoredTexts
import Statewright.Proofs.ReusedReaders
import Statewright.Proofs.Runs
import Statewright.Proofs.ScanLines
import Statewright.Proofs.SoleExpressions
import Statewright.Proofs.SourceLabels
import Statewright.Proofs.Spellings
import Statewright.Proofs.Suspension
import Statewright.Proofs.Tables
import Statewright.Proofs.Tokens
import Statewright.Proofs.TraitCalls
import Statewright.Proofs.TwinExpressions
import Statewright.Proofs.TwinReadings
import Statewright.Proofs.Typestates
import Statewright.Proofs.UnlinedChecks
import Statewright.Proofs.UnlinedModules
import Statewright.Proofs.UnlinedReaders
import Statewright.Proofs.ViolationLines
import Statewright.Proofs.WellTyped
import Statewright.Spec.Basic
import Statewright.Spec.Edit
import Statewright.Spec.Events
import Statewright.Spec.Flaw
import Statewright.Spec.Reading
import Statewright.Spec.Shelf
import Statewright.Spec.Table
import Statewright.Spec.Traits
import Statewright.Text.Basic
import Statewright.Text.Blank
import Statewright.Text.Block
import Statewright.Text.Datum
import Statewright.Text.Fill
import Statewright.Text.Identifier
import Statewright.Text.Lines
import Statewright.Text.Quoted
import Statewright.Text.UnicodeRanges
import Statewright.Validation.Deterministic
import Statewright.Validation.EventDriven
import Statewright.Validation.Fragments
import Statewright.Validation.Names
import Statewright.Validation.Traits
import Statewright.Validation.Verdict
import Statewright.Validation.Violation
