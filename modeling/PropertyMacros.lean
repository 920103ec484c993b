import PropertyMacros.Files.Tree
import PropertyMacros.Main
import PropertyMacros.Proofs.Command.Agreement
import PropertyMacros.Proofs.Command.Eval
import PropertyMacros.Proofs.Command.Listing
import PropertyMacros.Proofs.Command.ListingText
import PropertyMacros.Proofs.CommandLine.Assignment
import PropertyMacros.Proofs.CommandLine.Placement
import PropertyMacros.Proofs.Config.Acceptance
import PropertyMacros.Proofs.Config.Rearrangement
import PropertyMacros.Proofs.Elements.Packing
import PropertyMacros.Proofs.Elements.Window
import PropertyMacros.Proofs.Expression
import PropertyMacros.Proofs.Namespace.Defaults
import PropertyMacros.Proofs.Number.Order
import PropertyMacros.Proofs.Number.Quotient
import PropertyMacros.Proofs.Number.Reading
import PropertyMacros.Proofs.Operator.Equality
import PropertyMacros.Proofs.Operator.ErrorMark
import PropertyMacros.Proofs.Operator.ErrorText
import PropertyMacros.Proofs.Operator.Missing
import PropertyMacros.Proofs.Operator.Order
import PropertyMacros.Proofs.Json
import PropertyMacros.Proofs.Command.JsonText
import PropertyMacros.Proofs.Command.Selection
import PropertyMacros.Proofs.Config.Entries
