import ViewPoints.Json.Reader
import ViewPoints.Main
import ViewPoints.Pattern.Meaning
import ViewPoints.Proofs.HelperFile.Blocks
import ViewPoints.Proofs.HelperFile.Batch
import ViewPoints.Proofs.RunLog.Step
import ViewPoints.Proofs.Conversion.Passes
import ViewPoints.Proofs.RunLog.Attribution
import ViewPoints.Proofs.Conversion.Datasets
import ViewPoints.Proofs.HelperFile.Numbering
import ViewPoints.Proofs.RunLog.ShortTracks
import ViewPoints.Proofs.RunLog.Derived
import ViewPoints.Proofs.Conversion.Numbering
import ViewPoints.Proofs.Conversion.Assembly
import ViewPoints.Proofs.Conversion.Duration
import ViewPoints.Proofs.Conversion.Shape
import ViewPoints.Proofs.Pattern.Captures
import ViewPoints.Proofs.Stamp.Form
import ViewPoints.Proofs.Deviation.Failures
import ViewPoints.Proofs.RunLog.Failures
import ViewPoints.Proofs.Conversion.Failures
import ViewPoints.Proofs.Deviation.Raising
import ViewPoints.Proofs.HelperFile.Unfinished
import ViewPoints.Proofs.HelperFile.Concatenation
import ViewPoints.Proofs.Conversion.Concatenation
import ViewPoints.Proofs.HelperFile.Growth
import ViewPoints.Proofs.Conversion.Prefixes
import ViewPoints.Proofs.Deviation.Outcomes
import ViewPoints.Proofs.Deviation.TrackNumbers
import ViewPoints.Proofs.Conversion.TrackNumbers
import ViewPoints.Proofs.Deviation.Labels
import ViewPoints.Proofs.Conversion.Labels
import ViewPoints.Proofs.Text.Encoding
import ViewPoints.Proofs.HelperFile.Failures
import ViewPoints.Proofs.Conversion.Bytes
import ViewPoints.Proofs.CommandLine.Files
import ViewPoints.Proofs.CommandLine.Arguments
import ViewPoints.Proofs.CommandLine.Runs
import ViewPoints.Proofs.CommandLine.Groups
import ViewPoints.Proofs.Diagnostic
import ViewPoints.Proofs.CommandLine.Summary
import ViewPoints.Proofs.Text.Digits
import ViewPoints.Proofs.Json.Grammar
import ViewPoints.Proofs.Json.Printing
import ViewPoints.Proofs.Json.Reading
import ViewPoints.Proofs.Decimal.Reading
import ViewPoints.Proofs.Decimal.Layout
import ViewPoints.Proofs.Decimal.Shortest
import ViewPoints.Proofs.Decimal.Rounding
import ViewPoints.Proofs.Decimal.Floats
import ViewPoints.Proofs.Json.Numbers
import ViewPoints.Proofs.Json.Members
import ViewPoints.Proofs.Document.Format
import ViewPoints.Proofs.Document.Rendering
import ViewPoints.Proofs.Document.Filters
import ViewPoints.Proofs.Text.LineEnds
import ViewPoints.Proofs.Conversion.LineEnds
import ViewPoints.Proofs.Pattern.Preference
import ViewPoints.Proofs.Pattern.Search
import ViewPoints.Proofs.Stamp.Search
import ViewPoints.Proofs.Stamp.Order
import ViewPoints.Proofs.Stamp.Codec
import ViewPoints.Proofs.RunLog.Phrases
import ViewPoints.Proofs.RunLog.Clauses
import ViewPoints.Proofs.Deviation.Blocks
import ViewPoints.Proofs.Deviation.Contents
import ViewPoints.Proofs.Deviation.Candidates
import ViewPoints.Proofs.Deviation.Unmatched
import ViewPoints.Proofs.Deviation.TimeSpan
import ViewPoints.Proofs.Deviation.Mentions
import ViewPoints.Proofs.Deviation.Pairing
import ViewPoints.Proofs.Deviation.Sources
import ViewPoints.Proofs.Deviation.Notices
import ViewPoints.Proofs.HelperFile.Facts
import ViewPoints.Proofs.HelperFile.Metadata
import ViewPoints.Proofs.HelperFile.Headers
import ViewPoints.Proofs.Conversion.ClockOffset
