import ScriptFront.Main
import ScriptFront.Proofs.Grammar.Viability
import ScriptFront.Proofs.Parse.Alarm
import ScriptFront.Proofs.Parse.Boundary
import ScriptFront.Proofs.Token.Form
import ScriptFront.Proofs.Token.Longest
import ScriptFront.Proofs.Token.Munch
import ScriptFront.Proofs.Token.Blank
import ScriptFront.Proofs.Parse.Transparent
import ScriptFront.Proofs.Parse.Shifted
import ScriptFront.Proofs.Parse.Prepended
import ScriptFront.Proofs.Parse.History
import ScriptFront.Proofs.Parse.Written
import ScriptFront.Proofs.Parse.Complaint
import ScriptFront.Proofs.Parse.Order
import ScriptFront.Proofs.Parse.Normal
import ScriptFront.Proofs.Parse.Moved
import ScriptFront.Proofs.Token.Layout
import ScriptFront.Proofs.Parse.Layout
import ScriptFront.Proofs.Text.LineMap
import ScriptFront.Proofs.Token.Lines
import ScriptFront.Proofs.Token.Tiling
import ScriptFront.Proofs.Diagnostic.Label
import ScriptFront.Proofs.Diagnostic.Reported
import ScriptFront.Proofs.Command.Inputs
import ScriptFront.Proofs.Command.Setting
import ScriptFront.Proofs.Number.Literal
import ScriptFront.Proofs.Number.Rounding
import ScriptFront.Proofs.Number.Text
import ScriptFront.Proofs.Syntax.Printed
import ScriptFront.Proofs.Json.Grammar
import ScriptFront.Proofs.Json.Strings
import ScriptFront.Proofs.Json.Skip
import ScriptFront.Proofs.Json.Unique
import ScriptFront.Proofs.Json.Numerals
import ScriptFront.Proofs.Json.Written
import ScriptFront.Proofs.Syntax.Encoded
import ScriptFront.Proofs.Json.Record
import ScriptFront.Proofs.Options.Members
import ScriptFront.Proofs.Parse.Progress
import ScriptFront.Proofs.Parse.Tally
import ScriptFront.Proofs.Token.Listing
import ScriptFront.Proofs.Text.Place
import ScriptFront.Proofs.Token.Pulls
import ScriptFront.Proofs.Command.Failure
import ScriptFront.Proofs.Parse.Balance
