import GeoRaster.Proofs.GeoReference.Boxes
import GeoRaster.Proofs.GeoReference.Corners
import GeoRaster.Proofs.GeoReference.PathIndependence
import GeoRaster.Proofs.GeoReference.RoundTrip
import GeoRaster.Proofs.GeoReference.WithoutOver
import GeoRaster.Proofs.Objects.Reachable
import GeoRaster.Cartography.Atlas
import GeoRaster.GeoReference.BoxConversion
import GeoRaster.GeoReference.Printer
import GeoRaster.Json.Printer
import GeoRaster.Objects.Call
import GeoRaster.Projection.Parabolic
import GeoRaster.Resource
import GeoRaster.Wkt.Canonical
import GeoRaster.Wkt.Described
import GeoRaster.Proofs.GeoReference.ExactCorners
import GeoRaster.Proofs.GeoReference.WindowEdge
import GeoRaster.Proofs.GeoReference.Export
import GeoRaster.Proofs.Decimal.Notation
import GeoRaster.Proofs.Projection.Named
import GeoRaster.Proofs.Wkt.Sorting
import GeoRaster.Proofs.Wkt.RoundTrip
import GeoRaster.Proofs.Mapping.Footprint
import GeoRaster.Proofs.HalfPixel
import GeoRaster.Proofs.Determinant
import GeoRaster.Proofs.GeoReference.Questions
import GeoRaster.Proofs.Objects.Isolation
import GeoRaster.Proofs.Acceptance
import GeoRaster.Proofs.GeoReference.UpToFactor
import GeoRaster.Proofs.Mapping.Hemisphere
import GeoRaster.Proofs.Mapping.SampleGrid
import GeoRaster.Proofs.GeoReference.WholeTurns
import GeoRaster.Proofs.GeoReference.Reapplied
import GeoRaster.Proofs.LineWalk.Loops
import GeoRaster.Proofs.LineWalk.Segments
import GeoRaster.Proofs.Mapping.PixelGrid
import GeoRaster.Proofs.GeoReference.FinerSampling
import GeoRaster.Proofs.GeoReference.PixelBoxes
import GeoRaster.Proofs.Objects.TokenEdits
import GeoRaster.Proofs.Objects.OptionalConversion
import GeoRaster.Proofs.Join
import GeoRaster.Proofs.Projection.Parameters
