import TurtleGraphics.Main
import TurtleGraphics.Drawing.Canvas
import TurtleGraphics.Drawing.Counting
import TurtleGraphics.Drawing.Journal
import TurtleGraphics.Turtle.Path
import TurtleGraphics.Proofs.Number.Binary64
import TurtleGraphics.Proofs.Number.Value
import TurtleGraphics.Proofs.Number.Special
import TurtleGraphics.Proofs.Number.Rounding
import TurtleGraphics.Proofs.Number.Nearest
import TurtleGraphics.Proofs.Number.Places
import TurtleGraphics.Proofs.Number.Closest
import TurtleGraphics.Proofs.Number.Remainder
import TurtleGraphics.Proofs.Number.WholeNumbers
import TurtleGraphics.Proofs.Number.Decimals
import TurtleGraphics.Proofs.Number.Overflow
import TurtleGraphics.Proofs.Json.Grammar
import TurtleGraphics.Proofs.Json.Scalars
import TurtleGraphics.Proofs.Json.Parsing
import TurtleGraphics.Proofs.Json.Positions
import TurtleGraphics.Proofs.Json.Records
import TurtleGraphics.Proofs.Json.Members
import TurtleGraphics.Proofs.Json.Printing
import TurtleGraphics.Proofs.Json.Decoding
import TurtleGraphics.Proofs.Turtle.Nesting
import TurtleGraphics.Proofs.Turtle.Brackets
import TurtleGraphics.Proofs.Turtle.Census
import TurtleGraphics.Proofs.Turtle.Pairing
import TurtleGraphics.Proofs.Turtle.Trails
import TurtleGraphics.Proofs.Turtle.Headings
import TurtleGraphics.Proofs.Turtle.Residues
import TurtleGraphics.Proofs.Turtle.Spoiling
import TurtleGraphics.Proofs.Drawing.Plan
import TurtleGraphics.Proofs.Drawing.Protocol
import TurtleGraphics.Proofs.Drawing.Unhindered
import TurtleGraphics.Proofs.Drawing.Tallies
import TurtleGraphics.Proofs.Drawing.Facing
import TurtleGraphics.Proofs.Drawing.WholeDegrees
import TurtleGraphics.Proofs.Drawing.Respellings
import TurtleGraphics.Proofs.Drawing.Pens
import TurtleGraphics.Proofs.Drawing.Alphabets
import TurtleGraphics.Proofs.Drawing.Mirrors
import TurtleGraphics.Proofs.Drawing.Connections
import TurtleGraphics.Proofs.Drawing.Stretches
import TurtleGraphics.Proofs.Drawing.Matching
import TurtleGraphics.Proofs.Drawing.Resumption
import TurtleGraphics.Proofs.Drawing.Branches
import TurtleGraphics.Proofs.Drawing.Reports
import TurtleGraphics.Proofs.Drawing.Requests
import TurtleGraphics.Proofs.Drawing.Fields
import TurtleGraphics.Proofs.Drawing.Checks
import TurtleGraphics.Proofs.Drawing.Completion
import TurtleGraphics.Proofs.Drawing.Orientation
import TurtleGraphics.Proofs.Drawing.RoundTrip
import TurtleGraphics.Proofs.Drawing.Coupling
import TurtleGraphics.Proofs.Drawing.LastDrawing
import TurtleGraphics.Proofs.CommandLine.Entries
import TurtleGraphics.Proofs.CommandLine.Filling
import TurtleGraphics.Proofs.CommandLine.Room
import TurtleGraphics.Proofs.CommandLine.Endings
import TurtleGraphics.Proofs.CommandLine.Precedence
import TurtleGraphics.Proofs.CommandLine.Printouts
import TurtleGraphics.Proofs.CommandLine.Surroundings
