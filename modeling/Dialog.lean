import Dialog.Bindings
import Dialog.Console
import Dialog.Console.Arguments
import Dialog.Console.Path
import Dialog.Data
import Dialog.Data.Reader
import Dialog.Data.Spelling
import Dialog.Data.Writer
import Dialog.Draft
import Dialog.Graph
import Dialog.Graph.Closure
import Dialog.Graph.Distinct
import Dialog.Graph.Exit
import Dialog.Graph.Search
import Dialog.LoadFault
import Dialog.Main
import Dialog.Node
import Dialog.Position
import Dialog.Prompt
import Dialog.Proofs.Console.Check
import Dialog.Proofs.Console.Command
import Dialog.Proofs.Console.Crash
import Dialog.Proofs.Console.Display
import Dialog.Proofs.Console.Play
import Dialog.Proofs.Console.Stream
import Dialog.Proofs.Data.Correspondence
import Dialog.Proofs.Data.Telling
import Dialog.Proofs.Graph.Acyclic
import Dialog.Proofs.Graph.Attainable
import Dialog.Proofs.Graph.Exit
import Dialog.Proofs.Graph.Failure
import Dialog.Proofs.Graph.Route
import Dialog.Proofs.Graph.Searches
import Dialog.Proofs.Graph.Spread
import Dialog.Proofs.Graph.Trail
import Dialog.Proofs.Graph.Warnings
import Dialog.Proofs.Graph.Way
import Dialog.Proofs.Outcome
import Dialog.Proofs.Record.Concatenation
import Dialog.Proofs.Record.Decomposition
import Dialog.Proofs.Record.Grammar
import Dialog.Proofs.Record.Reach
import Dialog.Proofs.Record.Replacement
import Dialog.Proofs.Record.Run
import Dialog.Proofs.Record.Viability
import Dialog.Proofs.Script.Construction
import Dialog.Proofs.Script.File
import Dialog.Proofs.Script.Loading
import Dialog.Proofs.Script.Lookup
import Dialog.Proofs.Script.Nodes
import Dialog.Proofs.Script.RoundTrip
import Dialog.Proofs.Script.Texts
import Dialog.Proofs.Script.Verbatim
import Dialog.Proofs.Session.Accepting
import Dialog.Proofs.Session.Asking
import Dialog.Proofs.Session.Balance
import Dialog.Proofs.Session.Choosing
import Dialog.Proofs.Session.Endless
import Dialog.Proofs.Session.Escape
import Dialog.Proofs.Session.Faults
import Dialog.Proofs.Session.Footprint
import Dialog.Proofs.Session.History
import Dialog.Proofs.Session.Itinerary
import Dialog.Proofs.Session.Journey
import Dialog.Proofs.Session.Onward
import Dialog.Proofs.Session.Passage
import Dialog.Proofs.Session.Place
import Dialog.Proofs.Session.Provenance
import Dialog.Proofs.Session.Rejections
import Dialog.Proofs.Session.Renewal
import Dialog.Proofs.Session.Resumption
import Dialog.Proofs.Session.Safety
import Dialog.Proofs.Session.Transcript
import Dialog.Proofs.Session.Turn
import Dialog.Proofs.Session.Unseen
import Dialog.Proofs.Session.Visits
import Dialog.Proofs.Session.Walkthrough
import Dialog.Proofs.Template.Reading
import Dialog.Proofs.Template.Seam
import Dialog.Proofs.Text.Lines
import Dialog.Record
import Dialog.Record.Reader
import Dialog.Script
import Dialog.Script.Reader
import Dialog.Script.Writer
import Dialog.Session
import Dialog.Session.Answers
import Dialog.Session.Event
import Dialog.Session.Log
import Dialog.Session.Operation
import Dialog.Session.Response
import Dialog.Session.Run
import Dialog.Session.Span
import Dialog.Session.Step
import Dialog.Template
import Dialog.Text.Blank
import Dialog.Text.Digit
import Dialog.Text.File
import Dialog.Text.Integer
import Dialog.Text.Line
import Dialog.Text.Numeral
import Dialog.Text.Printable
import Dialog.Text.Quoted
import Dialog.Text.Uppercase
import Dialog.Text.Utf8
import Dialog.Warning
