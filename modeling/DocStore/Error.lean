import DocStore.Geometry.Type
import DocStore.Json.Location
import DocStore.Json.Printer

/-! # Errors

Why an operation failed. An error names its cause; the wording is in one function for each kind
of cause, and `Error.isInputFault` tells the faults of the caller's own input from the rest.
-/

namespace DocStore

/-- What is wrong with a reference. -/
inductive ReferenceFault where
  | emptyPath
  | emptySegment (position : Nat)
  | slashInSegment (position : Nat)
  /-- A document path with this odd number of segments. -/
  | oddDocumentPath (count : Nat)
  /-- A collection path with this even number of segments. -/
  | evenCollectionPath (count : Nat)
  | emptyChild
  | slashInChild (id : String)
  /-- A reference of one database used with a client of another. -/
  | foreignDatabase (own bound : String)
  deriving DecidableEq, Repr

def ReferenceFault.text : ReferenceFault → String
  | .emptyPath => "path is empty"
  | .emptySegment position => "segment " ++ toString position ++ " is empty"
  | .slashInSegment position => "segment " ++ toString position ++ " contains '/'"
  | .oddDocumentPath count =>
      "document paths need an even number of segments, got " ++ toString count
  | .evenCollectionPath count =>
      "collection paths need an odd number of segments, got " ++ toString count
  | .emptyChild => "child id is empty"
  | .slashInChild id => "child id '" ++ id ++ "' contains '/'"
  | .foreignDatabase own bound =>
      "belongs to database '" ++ own ++ "', client is bound to '" ++ bound ++ "'"

/-- The classes of operands, as error texts name them. -/
inductive OperandKind where
  | null
  | bool
  | number
  | string
  | array
  | map
  | field
  deriving DecidableEq, Repr

def OperandKind.text : OperandKind → String
  | .null => "null"
  | .bool => "bool"
  | .number => "number"
  | .string => "string"
  | .array => "array"
  | .map => "map"
  | .field => "field expression"

/-- What an operator asks of an operand that it did not get. -/
inductive OperandDemand where
  | literalValue
  | number
  | finiteNumber
  | finiteDivisor
  | nonNegativeInteger
  | typeName
  | fieldPath
  | geometryObject
  | noDistanceBound
  deriving DecidableEq, Repr

def OperandDemand.text : OperandDemand → String
  | .literalValue => "literal value"
  | .number => "number"
  | .finiteNumber => "finite number"
  | .finiteDivisor => "finite divisor"
  | .nonNegativeInteger => "non-negative integer"
  | .typeName => "type name"
  | .fieldPath => "field path"
  | .geometryObject => "geometry object"
  | .noDistanceBound => "no distance bound"

/-- What an operator found in place of what it demands. -/
inductive OperandFound where
  | operand (kind : OperandKind)
  | emptyString
  deriving DecidableEq, Repr

def OperandFound.text : OperandFound → String
  | .operand kind => kind.text
  | .emptyString => "empty string"

/-- How a value differs from its schema. -/
inductive Mismatch where
  | wrongKind (expected found : Json.Kind)
  | missingProperty (name : String)
  | unexpectedProperty (name : String)
  | tooFewItems (least found : Nat)
  | noAlternative
  | patternNotFound (text pattern : String)
  /-- A schema reference without a definition, or one that only leads back to itself. -/
  | unresolvedReference (name : String)
  | missingGeometryType
  | unknownGeometryType (name : String)
  deriving DecidableEq, Repr

def Mismatch.text : Mismatch → String
  | .wrongKind expected found => "expected " ++ expected.text ++ ", found " ++ found.text
  | .missingProperty name => "missing required property '" ++ name ++ "'"
  | .unexpectedProperty name => "unexpected property '" ++ name ++ "'"
  | .tooFewItems least found =>
      "expected at least " ++ toString least ++ " items, found " ++ toString found
  | .noAlternative => "value matches none of the alternatives"
  | .patternNotFound text pattern => "'" ++ text ++ "' does not match " ++ pattern
  | .unresolvedReference name => "reference '" ++ name ++ "' leads to no schema"
  | .missingGeometryType => "missing geometry type"
  | .unknownGeometryType name => "unknown geometry type '" ++ name ++ "'"

/-- Why a ring is not closed. -/
inductive RingFault where
  | tooFewPositions (found : Nat)
  | endsDiffer
  deriving DecidableEq, Repr

def RingFault.text : RingFault → String
  | .tooFewPositions found =>
      "ring needs at least 4 positions, found " ++ toString found
  | .endsDiffer => "first and last positions differ"

/-- Why a text is no URL. -/
inductive UrlFault where
  | relativeWithoutBase
  | emptyHost
  | invalidPort
  | invalidDomain
  | invalidDomainCharacter
  | invalidIpv4
  | invalidIpv6
  deriving DecidableEq, Repr

def UrlFault.text : UrlFault → String
  | .relativeWithoutBase => "relative URL without a base"
  | .emptyHost => "empty host"
  | .invalidPort => "invalid port number"
  | .invalidDomain => "invalid international domain name"
  | .invalidDomainCharacter => "invalid domain character"
  | .invalidIpv4 => "invalid IPv4 address"
  | .invalidIpv6 => "invalid IPv6 address"

/-- Why a server's data could not be decoded, or a value could not be stored as a document. -/
inductive DataFault where
  | malformedText
  | malformedFrame
  | documentNotObject (found : Json.Kind)
  /-- A document of this collection without an id. -/
  | missingId (collection : String)
  | documentsNotArray (found : Json.Kind)
  | collectionBody (found : Json.Kind)
  | documentBody (found : Json.Kind)
  | updateWithoutDocument
  | deleteWithoutName
  | integerExpected (key : String)
  deriving DecidableEq, Repr

def DataFault.text : DataFault → String
  | .malformedText => "text is not JSON"
  | .malformedFrame => "frame has a member of the wrong form"
  | .documentNotObject found => "document must be an object, found " ++ found.text
  | .missingId collection => "document in '" ++ collection ++ "' has no _id"
  | .documentsNotArray found => "documents must be an array, found " ++ found.text
  | .collectionBody found =>
      "collection body must be an array or object, found " ++ found.text
  | .documentBody found => "document body must be an object, found " ++ found.text
  | .updateWithoutDocument => "update frame without document"
  | .deleteWithoutName => "delete frame without name"
  | .integerExpected key => "member '" ++ key ++ "' is not an integer"

/-- What is wrong with a client's or a request's settings. -/
inductive ConfigFault where
  | emptyDatabaseId
  | notBase (url : String)
  | realtimeScheme (scheme : String)
  | invalidToken
  | invalidPattern (pattern : String)
  deriving DecidableEq, Repr

def ConfigFault.text : ConfigFault → String
  | .emptyDatabaseId => "database id is empty"
  | .notBase url => "'" ++ url ++ "' cannot be a base URL"
  | .realtimeScheme scheme => "unsupported URL scheme '" ++ scheme ++ "' for realtime"
  | .invalidToken => "invalid auth token: failed to parse header value"
  | .invalidPattern pattern => "invalid schema pattern: " ++ pattern

/-- Why an exchange with the server gave no usable response. -/
inductive ExchangeFault where
  /-- A URL that names no host to send the request to. -/
  | noHost
  | noResponse
  /-- A response whose body should be JSON and is not. -/
  | malformedBody
  deriving DecidableEq, Repr

def ExchangeFault.text : ExchangeFault → String
  | .noHost => "URL has no host"
  | .noResponse => "no response from the server"
  | .malformedBody => "response body is not JSON"

/-- A failed operation. -/
inductive Error where
  | invalidReference (path : String) (fault : ReferenceFault)
  | missingField (operator : String)
  | invalidOperand (field operator : String) (demand : OperandDemand) (found : OperandFound)
  | divisionByZero (field operator : String)
  | arrayExpected (field operator : String) (found : OperandKind)
  | unsupportedGeometry (operator : String) (type : GeometryType)
  | schemaMismatch (location : Location) (mismatch : Mismatch)
  | unclosedRing (location : Location) (fault : RingFault)
  | connectionFailed (reason : String)
  /-- An error that the server reported in a frame, with the frame's error member. -/
  | serverReported (message : String) (details : Json)
  /-- A response whose status is no success. -/
  | transport (status : Nat) (message : String)
  | http (fault : ExchangeFault)
  | webSocket (reason : String)
  | url (fault : UrlFault)
  | serialization (fault : DataFault)
  | config (fault : ConfigFault)
  deriving DecidableEq, Repr

namespace Error

def message : Error → String
  | .invalidReference path fault => "Invalid reference '" ++ path ++ "': " ++ fault.text
  | .missingField operator => "Missing field for " ++ operator
  | .invalidOperand field operator demand found =>
      "Invalid operand for " ++ operator ++ " on '" ++ field ++ "': expected " ++ demand.text ++
        ", found " ++ found.text
  | .divisionByZero field operator =>
      "Division by zero in " ++ operator ++ " on '" ++ field ++ "'"
  | .arrayExpected field operator found =>
      "Array expected for " ++ operator ++ " on '" ++ field ++ "', found " ++ found.text
  | .unsupportedGeometry operator type =>
      "Geometry type " ++ type.name ++ " is not supported by " ++ operator
  | .schemaMismatch location mismatch =>
      "Schema mismatch at " ++ location.text ++ ": " ++ mismatch.text
  | .unclosedRing location fault => "Unclosed ring at " ++ location.text ++ ": " ++ fault.text
  | .connectionFailed reason => "Connection failed: " ++ reason
  | .serverReported message _ => "Server error: " ++ message
  | .transport status message => "Transport error (" ++ toString status ++ "): " ++ message
  | .http fault => "HTTP error: " ++ fault.text
  | .webSocket reason => "WebSocket error: " ++ reason
  | .url fault => "Invalid URL: " ++ fault.text
  | .serialization fault => "Serialization error: " ++ fault.text
  | .config fault => "Configuration error: " ++ fault.text

/-- Whether the error is a fault of the caller's own input, so that trying again cannot
    help. -/
def isInputFault : Error → Bool
  | .invalidReference _ _ | .missingField _ | .invalidOperand _ _ _ _ | .divisionByZero _ _
  | .arrayExpected _ _ _ | .unsupportedGeometry _ _ | .schemaMismatch _ _
  | .unclosedRing _ _ => true
  | .connectionFailed _ | .serverReported _ _ | .transport _ _ | .http _ | .webSocket _
  | .url _ | .serialization _ | .config _ => false

end Error

end DocStore
