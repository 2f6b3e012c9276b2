import Highlighter.Number
import Highlighter.Number.Shortest
import Highlighter.Number.Text
import Highlighter.Text.Units
import Highlighter.Json
import Highlighter.Json.Printer
import Highlighter.Json.Reader
import Highlighter.Kind
import Highlighter.Range
import Highlighter.Token
import Highlighter.Token.Collect
import Highlighter.Line
import Highlighter.Line.Change
import Highlighter.Payload.Base64
import Highlighter.Payload
import Highlighter.Text.Word
import Highlighter.Text.Blank
import Highlighter.Source
import Highlighter.Decl
import Highlighter.Decl.Classification
import Highlighter.Tree
import Highlighter.Tree.Walk
import Highlighter.Tree.Highlights
import Highlighter.Tree.Place
import Highlighter.Tree.Reading
import Highlighter.Tree.Reader
import Highlighter.Files
import Highlighter.Tree.Load
import Highlighter.Document
import Highlighter.Document.Listing
import Highlighter.Queue
import Highlighter.Queue.Rehearsal
import Highlighter.Service
import Highlighter.Service.Surroundings
import Highlighter.Number.Digits
import Highlighter.Number.Numeral
import Highlighter.Text.Utf8
import Highlighter.Document.Wire
import Highlighter.Http.Query
import Highlighter.Http.Validation
import Highlighter.Http.Server
import Highlighter.Rpc
import Highlighter.Text.Hex
import Highlighter.Digest.Md5
import Highlighter.Daemon
import Highlighter.Text.Columns
import Highlighter.Console.Grid
import Highlighter.Console.Literal
import Highlighter.Console.Rows
import Highlighter.Console.Value
import Highlighter.Console.Presentation
import Highlighter.Console.Arguments
import Highlighter.Console.Command
import Highlighter.Console.Plan
import Highlighter.Main
import Highlighter.Proofs.Results
import Highlighter.Proofs.Queue.Discipline
import Highlighter.Proofs.Service.Moves
import Highlighter.Proofs.Service.Soundness
import Highlighter.Proofs.Service.Abreast
import Highlighter.Proofs.Service.Returns
import Highlighter.Proofs.Service.Serializability
import Highlighter.Line.Sheet
import Highlighter.Proofs.Line.Grouping
import Highlighter.Proofs.Line.Patching
import Highlighter.Proofs.Line.Payloads
import Highlighter.Proofs.Tree.Resolved
import Highlighter.Service.Mirror
import Highlighter.Proofs.Service.Mirroring
import Highlighter.Proofs.Service.Rejection
import Highlighter.Proofs.Number.Rounding
import Highlighter.Proofs.Token.Order
import Highlighter.Proofs.Token.Collection
import Highlighter.Proofs.Payload.Base64
import Highlighter.Proofs.Payload.RoundTrip
import Highlighter.Document.Readback
import Highlighter.Proofs.Document.Agreement
import Highlighter.Proofs.Tree.Reads
import Highlighter.Proofs.Tree.Forms
import Highlighter.Proofs.Tree.Acceptance
import Highlighter.Decl.Basis
import Highlighter.Proofs.Decl.Grounding
import Highlighter.Proofs.Decl.Candidates
import Highlighter.Proofs.Tree.Questions
import Highlighter.Proofs.Tree.Preorder
import Highlighter.Proofs.Queue.History
import Highlighter.Proofs.Service.Canonicity
import Highlighter.Proofs.Queue.Turns
import Highlighter.Proofs.Service.Handover
import Highlighter.Proofs.Service.Publication
import Highlighter.Proofs.Queue.Rehearsal
import Highlighter.Service.Account
import Highlighter.Proofs.Service.Versions
import Highlighter.Proofs.Service.Separation
import Highlighter.Tree.Contents
import Highlighter.Proofs.Decl.Likeness
import Highlighter.Proofs.Tree.Likeness
import Highlighter.Proofs.Tree.Rearrangement
import Highlighter.Http.Session
import Highlighter.Proofs.Http.Session
import Highlighter.Proofs.Line.Minimality
import Highlighter.Decl.Links
import Highlighter.Proofs.Decl.Transparency
import Highlighter.Text.Points
import Highlighter.Source.Measure
import Highlighter.Proofs.Text.Points
import Highlighter.Proofs.Text.Runs
import Highlighter.Proofs.Source.Measurement
import Highlighter.Proofs.Tree.Overlap
import Highlighter.Proofs.Tree.Misfits
import Highlighter.Proofs.Tree.Relevance
import Highlighter.Proofs.Tree.Writing
import Highlighter.Proofs.Tree.Mentions
import Highlighter.Tree.Resolution
import Highlighter.Proofs.Tree.Resolution
import Highlighter.Tree.Contributions
import Highlighter.Proofs.Tree.Contributions
import Highlighter.Proofs.Line.Factorisation
import Highlighter.Proofs.Payload.Reencoding
import Highlighter.Proofs.Source.LineEnds
import Highlighter.Proofs.Service.Overflow
import Highlighter.Proofs.Line.Disorder
import Highlighter.Line.Comparison
import Highlighter.Proofs.Line.Exhaustion
