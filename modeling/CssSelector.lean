import CssSelector.Context.Table
import CssSelector.Grammar.Json
import CssSelector.Grammar.Script
import CssSelector.Log.Program
import CssSelector.Log.Recording
import CssSelector.Main
import CssSelector.Scan.Machine
import CssSelector.Scan.Scanner
import CssSelector.Proofs.Log.Capture
import CssSelector.Proofs.Log.Window
import CssSelector.Proofs.Log.Scope
import CssSelector.Proofs.Source.Underline
import CssSelector.Proofs.Scan.Stack
import CssSelector.Proofs.Scan.Trace
import CssSelector.Proofs.Scan.Contract
import CssSelector.Proofs.Scan.Refinement
import CssSelector.Proofs.Scan.Unique
import CssSelector.Proofs.Scan.Statistics
import CssSelector.Proofs.Scan.Preferences
import CssSelector.Proofs.Scan.Log
import CssSelector.Proofs.Selector.Lexeme
import CssSelector.Proofs.Selector.Tiling
import CssSelector.Proofs.Selector.Nesting
import CssSelector.Proofs.Selector.LineEnd
import CssSelector.Proofs.Selector.Translation
import CssSelector.Proofs.Selector.Barrier
import CssSelector.Proofs.Selector.Extension
import CssSelector.Proofs.Selector.Comma
import CssSelector.Proofs.Selector.Quotation
import CssSelector.Proofs.Selector.Scanner
import CssSelector.Proofs.Selector.StringUnit
import CssSelector.Proofs.Selector.LongestMatch
import CssSelector.Proofs.Selector.Parameter
import CssSelector.Proofs.Parse.Conservation
import CssSelector.Proofs.Parse.Delegation
import CssSelector.Proofs.Parse.Front
import CssSelector.Proofs.Parse.Preferences
import CssSelector.Proofs.Parse.Log
import CssSelector.Proofs.Grammar.Honest
import CssSelector.Proofs.Grammar.SelectorList
import CssSelector.Proofs.Grammar.Failure
import CssSelector.Proofs.Compile.Delivery
import CssSelector.Proofs.Compile.Render
import CssSelector.Proofs.Compile.Failure
import CssSelector.Proofs.Compile.Preferences
import CssSelector.Proofs.Compile.Log
import CssSelector.Proofs.Token.RoundTrip
import CssSelector.Proofs.Selector.Beginning
import CssSelector.Proofs.Selector.RuleOrder
import CssSelector.Proofs.Selector.Layout
import CssSelector.Proofs.Scan.Rules
