import ShellPipeline.Main
import ShellPipeline.Proofs.Tokens
import ShellPipeline.Proofs.Grammar
import ShellPipeline.Proofs.Rendering
import ShellPipeline.Proofs.Runs
import ShellPipeline.Proofs.FirstFailure
import ShellPipeline.Proofs.Joining
import ShellPipeline.Proofs.Spacing
import ShellPipeline.Proofs.Tiling
import ShellPipeline.Proofs.Rejections
import ShellPipeline.Proofs.JsonRecords
import ShellPipeline.Proofs.Overlays
import ShellPipeline.Proofs.Sources
import ShellPipeline.Proofs.InputReading
import ShellPipeline.Proofs.Progress
import ShellPipeline.Proofs.LineByLine
import ShellPipeline.Proofs.Noninterference
import ShellPipeline.Proofs.LogFile
import ShellPipeline.Proofs.RecordLines
import ShellPipeline.Proofs.LongestMatch
import ShellPipeline.Proofs.RedirectionSets
import ShellPipeline.Proofs.Appending
import ShellPipeline.Proofs.StageRecords
import ShellPipeline.Proofs.Arguments
import ShellPipeline.Proofs.TokenBoundaries
import ShellPipeline.Proofs.Unquoting
import ShellPipeline.Proofs.Carets
