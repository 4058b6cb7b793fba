import Labbook.Main
import Labbook.Proofs.Attribute.Linearization
import Labbook.Proofs.Attribute.Listing
import Labbook.Proofs.Attribute.Subclass
import Labbook.Proofs.Mesh.Classification
import Labbook.Proofs.Mesh.ShapedSweep
import Labbook.Proofs.Plot.CanvasReuse
import Labbook.Proofs.Mesh.DroppedPoints
import Labbook.Proofs.Mesh.Clipping
import Labbook.Proofs.Run.Alignment
import Labbook.Proofs.Plot.Filtering
import Labbook.Proofs.Plot.Categories
import Labbook.Proofs.Plot.Replotting
import Labbook.Proofs.Picture.PaintOrder
import Labbook.Proofs.Plot.AxisCoverage
import Labbook.Proofs.Mesh.Sweep
import Labbook.Proofs.Mesh.BothZeros
import Labbook.Proofs.Plot.CategoryBands
import Labbook.Proofs.Picture.StoredBelow
import Labbook.Proofs.Mesh.CellsInside
import Labbook.Proofs.Plot.ComplexParts
import Labbook.Proofs.Color.Limits
import Labbook.Proofs.Number.TickValue
import Labbook.Proofs.Text.Wrapping
import Labbook.Proofs.Color.Rescaled
import Labbook.Proofs.Plot.AxisRescaling
import Labbook.Proofs.Plot.TextAxes
import Labbook.Proofs.Color.HexText
import Labbook.Proofs.Color.Autoscale
import Labbook.Proofs.Color.ExtendMarks
import Labbook.Proofs.Setpoint.UnitScale
import Labbook.Proofs.Attribute.Repeats
import Labbook.Proofs.Number.UnboundedWords
import Labbook.Proofs.Picture.UnmeasuredPoints
import Labbook.Proofs.Plot.SortedLine
import Labbook.Proofs.Plot.AtomicDrawing
import Labbook.Proofs.Attribute.ConstructorScan
import Labbook.Proofs.Mesh.SwappedAxes
import Labbook.Proofs.Attribute.ClassText
import Labbook.Proofs.Mesh.Tiling
import Labbook.Proofs.Run.Capacity
import Labbook.Proofs.Picture.RasterBuffer
