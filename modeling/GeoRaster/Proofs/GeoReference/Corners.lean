import GeoRaster.Proofs.Affine
import GeoRaster.Proofs.Mapping.Corners
import GeoRaster.GeoReference.BoxConversion
import GeoRaster.Projection.Parabolic

/-! Where corners suffice. A georeference without projection converts pixel boxes by their corners, and so
spares itself the sampling of a map that is affine; the samples would give the same box. -/
namespace GeoRaster

open Box
open Mapping (areOnGrid sampleBox samplePixels transformCorners)
open Scalar (ofInt)

variable {α : Type} [ExactScalar α]

namespace GeoReference

end GeoReference

end GeoRaster
