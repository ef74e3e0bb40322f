import GeoRaster.Text.Listing
import GeoRaster.Decimal.Notation

/-! What can go wrong. Each fault is a cause, and its wording is given by one function.
Faults of configuration leave what they were raised for unconfigured; faults of projection
concern a single coordinate; the remaining ones say that an argument is not of the form
that the operation takes. Numbers are kept in their written form, so that one type of
fault serves every arithmetic. -/
namespace GeoRaster

/-- Which of the two matrices of a pixel transform a fault is about. -/
inductive TransformKind where
  | given
  | shifted
deriving DecidableEq, Repr

def TransformKind.name : TransformKind → String
  | .given => "transform"
  | .shifted => "shifted transform"

inductive Fault where
  | transformShape (extents : List Nat)
  | transformNotFinite (matrix : String)
  | unknownInterpretation (given : String)
  | notInvertible (kind : TransformKind) (matrix : String)
  | numericallySingular (kind : TransformKind) (matrix : String)
  | datumAxes (semiMajor semiMinor : String)
  | unknownDatum (name : String) (supported : List String)
  | emptyProjection
  | unnamedProjection (projection : String)
  | rejected (reason : String)
  | unconfigured
  /-- The first pixel has no longitude, so no longitude window can be chosen. -/
  | startOutsideDomain (reason : String)
  | invalidWkt (reason : String)
  | wktWithoutProjection (wkt : String)
  | wktWithoutEllipsoid
  | noReferenceSystem (crs reason : String)
  /-- The projection has no value at a coordinate; the place is written right after the
  reason. -/
  | notEvaluable (reason place : String)
  | readOnlyHeader
  | headerNotReadable (resource : String)
  | headerNotWritable (resource : String)
  | georeferenceNotWritable
  | sampleCount (count : Int)
  | notAPair
  | notBroadcastable
  | raggedMatrix
  | zoneNumber (text : String)
  | undefinedWhole
  | infiniteWhole
  | beyondDoubles
  | beyondGrid
  | missingCoordinate
  | invalidBox
deriving DecidableEq, Repr

inductive FaultKind where
  | configuration
  | projectionMath
  | unsupported
  | value
  | overflow
  | index
  | assertion
deriving DecidableEq, Repr

namespace Fault

def kind : Fault → FaultKind
  | .notEvaluable .. => .projectionMath
  | .readOnlyHeader | .headerNotReadable .. | .headerNotWritable .. | .georeferenceNotWritable =>
    .unsupported
  | .sampleCount .. | .notAPair | .notBroadcastable | .raggedMatrix | .zoneNumber .. | .undefinedWhole =>
    .value
  | .infiniteWhole | .beyondDoubles | .beyondGrid => .overflow
  | .missingCoordinate => .index
  | .invalidBox => .assertion
  | _ => .configuration

def message : Fault → String
  | .transformShape extents =>
    "Transform must be a 3x3 matrix, got shape " ++
      Text.tupled (extents.map Decimal.natText)
  | .transformNotFinite matrix => "Transform contains non-finite values: " ++ matrix
  | .unknownInterpretation given => "Unknown pixel interpretation: " ++ given
  | .notInvertible kind matrix => "The " ++ kind.name ++ " is not invertible: " ++ matrix
  | .numericallySingular kind matrix =>
    "The " ++ kind.name ++ " is numerically singular: " ++ matrix
  | .datumAxes semiMajor semiMinor =>
    "Datum axes must be positive, got a=" ++ semiMajor ++ " b=" ++ semiMinor
  | .unknownDatum name supported =>
    "Unknown datum: " ++ name ++ ". Supported are: " ++ Text.commaSeparated supported
  | .emptyProjection => "Empty projection string"
  | .unnamedProjection projection => "Projection string has no +proj token: " ++ projection
  | .rejected reason => reason
  | .unconfigured => "Projection provider is not initialized"
  | .startOutsideDomain reason =>
    "Cannot determine the longitude range, pixel (0,0) does not unproject: " ++ reason
  | .invalidWkt reason => "Invalid WKT: " ++ reason
  | .wktWithoutProjection wkt => "WKT cannot be expressed as PROJ string: " ++ wkt
  | .wktWithoutEllipsoid => "WKT does not define an ellipsoid"
  | .noReferenceSystem crs reason =>
    "Cannot express as CRS: " ++ crs ++ "\n\tError was: " ++ reason
  | .notEvaluable reason place => reason ++ place
  | .readOnlyHeader => "This image resource is read-only."
  | .headerNotReadable resource => resource ++ " does not support reading header values."
  | .headerNotWritable resource => resource ++ " does not support writing header values."
  | .georeferenceNotWritable =>
    "This image resource does not support writing georeferencing information."
  | .sampleCount count => "nsamples must be positive, got " ++ Decimal.intText count
  | .notAPair => "a coordinate must have two elements"
  | .notBroadcastable => "a box grows by one or two elements"
  | .raggedMatrix => "the rows of a matrix must have one length"
  | .zoneNumber text => "not a zone number: " ++ text
  | .undefinedWhole => "an undefined number has no whole part"
  | .infiniteWhole => "an infinite number has no whole part"
  | .beyondDoubles => "a whole number is too large for a double"
  | .beyondGrid => "a whole number is too large for a grid"
  | .missingCoordinate => "a coordinate has no second element"
  | .invalidBox => "the bounds of a box must be in order"

end Fault

end GeoRaster
