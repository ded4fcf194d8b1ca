import RotaryScan.Main
import RotaryScan.Proofs.Codec
import RotaryScan.Proofs.Coverage
import RotaryScan.Proofs.Orientation
import RotaryScan.Proofs.CutOff
import RotaryScan.Proofs.Mirror
import RotaryScan.Proofs.FlipWarning
import RotaryScan.Proofs.InputKept
import RotaryScan.Proofs.Delivery
import RotaryScan.Proofs.Reveal
import RotaryScan.Proofs.Reporting
import RotaryScan.Proofs.ObjNumbering
import RotaryScan.Proofs.PlyLayout
import RotaryScan.Proofs.ObjLayout
import RotaryScan.Proofs.MockScan
import RotaryScan.Proofs.Storing
import RotaryScan.Proofs.Buffering
import RotaryScan.Proofs.Batches
import RotaryScan.Proofs.PointTables
import RotaryScan.Proofs.SampleCount
import RotaryScan.Proofs.Sweep
import RotaryScan.Proofs.Interruption
import RotaryScan.Proofs.Exactness
import RotaryScan.Proofs.OutputPath
import RotaryScan.Proofs.InputNamed
import RotaryScan.Proofs.Draws
import RotaryScan.Proofs.Requests
