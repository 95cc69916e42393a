import TypedArguments.Accessor.Basic
import TypedArguments.Proofs.Accessor.Messages
import TypedArguments.Proofs.Search.Content
import TypedArguments.Proofs.Untyped.Soundness
import TypedArguments.Proofs.Context.Registrations
import TypedArguments.Proofs.Context.LastWriter
import TypedArguments.Proofs.Search.Coherence
import TypedArguments.Proofs.Search.Absence
import TypedArguments.Proofs.Search.NewLayer
import TypedArguments.Proofs.Untyped.Reads
import TypedArguments.Proofs.Search.Order
import TypedArguments.Proofs.Search.Causes
import TypedArguments.Proofs.Search.Grid
import TypedArguments.Proofs.Search.Missing
import TypedArguments.Proofs.Search.Asked
import TypedArguments.Proofs.Search.Agreement
import TypedArguments.Proofs.Standard.Basic
import TypedArguments.Proofs.Standard.TextSetting
import TypedArguments.Proofs.Standard.Integers
import TypedArguments.Proofs.Number.Grammar
import TypedArguments.Proofs.Number.Numerals
import TypedArguments.Proofs.Standard.Rendering
import TypedArguments.Proofs.Standard.TextGrammar
import TypedArguments.Proofs.Search.Descent
import TypedArguments.Proofs.Settings.History
import TypedArguments.Proofs.Number.Rational
import TypedArguments.Proofs.Standard.Floats
