import Workflow.Charset.Decoding
import Workflow.Checked
import Workflow.Text.Quoted

/-!
# Failures

Why an operation on flows is refused. A failure is a cause; its wording is `message`, its
name in an answer is `label?`, and `family?` says what sort of refusal it is: something
that was named does not exist, the flow would become illegal, the request makes no sense,
or somebody else changed the flow in the meantime. An operation that fails changes nothing.

The causes without a family are not answers to a request but defects of the stored data or
of the parameters of a node: they end an operation because a value has a shape that cannot
be used where it stands.
-/

namespace Workflow

/-- The two ends of a connection. -/
inductive End where
  /-- The node whose output is used. -/
  | source
  /-- The node whose input is fed. -/
  | target
  deriving DecidableEq, Inhabited

/-- Why an address cannot be taken apart. -/
inductive AddressFault where
  /-- One square bracket without the other. -/
  | unbalancedBrackets
  /-- The brackets hold the address of an older protocol. -/
  | bracketedV4
  /-- The brackets hold a malformed address of a future protocol. -/
  | malformedFuture
  /-- The brackets hold no address. -/
  | noAddress (host : String)
  /-- A character of the host reads as a delimiter in its compatible form. -/
  | compatibleDelimiter (host : String)
  deriving DecidableEq, Inhabited

/-- What is wrong with an address. -/
def AddressFault.message : AddressFault → String
  | .unbalancedBrackets => "Invalid IPv6 URL"
  | .bracketedV4 => "An IPv4 address cannot be in brackets"
  | .malformedFuture => "IPvFuture address is invalid"
  | .noAddress host => Text.quoted host ++ " does not appear to be an IPv4 or IPv6 address"
  | .compatibleDelimiter host =>
    "netloc '" ++ host ++ "' contains invalid characters under NFKC normalization"

/-- **Why an operation is refused.** -/
inductive Failure where
  /-- No flow has this id. -/
  | flowNotFound (flow : String)
  /-- No node of the flow has this id. -/
  | nodeNotFound (role : Option End) (node flow : String)
  /-- No connection of the flow has this id. -/
  | connectionNotFound (connection flow : String)
  /-- The registry does not know this node type. -/
  | nodeTypeNotFound (type : String)
  /-- Another node of the flow has this name. -/
  | nameConflict (name : String)
  /-- A trigger takes no input. -/
  | invalidTarget
  /-- A link takes input from interface nodes alone. -/
  | linkConstraint
  /-- Both ends are the same node. -/
  | selfConnection
  /-- The connection would close a cycle. -/
  | cycleDetected
  /-- The connection is already there. -/
  | duplicateConnection
  /-- A sample is needed and none was given. -/
  | sampleMissing
  /-- The sample is a text that is not JSON. -/
  | sampleMalformed
  /-- Only API calls can be tested live. -/
  | notApiCall (node type : String)
  /-- Only a transform can be spliced in. -/
  | notTransformer (type : String)
  /-- The stored flow is not the version that was loaded. -/
  | versionConflict (flow : String) (expected actual : Int)
  /-- A flow with this id is already stored. -/
  | flowExists (flow : String)
  /-- A row with this key is already in the table. -/
  | rowExists
  /-- Two node types of a registry have this name. -/
  | duplicateNodeType (type : String)
  /-- No category has this name, which is given as a literal. -/
  | unknownCategory (name : String)
  /-- No compatibility status has this name, which is given as a literal. -/
  | unknownStatus (name : String)
  /-- The address of a live test cannot be taken apart. -/
  | malformedAddress (fault : AddressFault)
  /-- A value does not fit the record it was put into. -/
  | invalidDocument (defects : List Defect)
  /-- A value is not a list, where its items are needed. -/
  | notIterable
  /-- A value is not a map, where its entries are needed. -/
  | notMap
  /-- An item of a list of pairs, at a position from zero on, has another length than two. -/
  | notPair (index length : Nat)
  /-- An argument is missing, or there is one that an operation does not take. -/
  | badArguments
  /-- A value is not a number, where it is compared with one. -/
  | notNumber
  /-- A list or an object stands where a key is needed. -/
  | unusableKey
  /-- A list or an object cannot be compared with a column of a table. -/
  | unboundValue
  /-- A value is not a text, where its characters are needed. -/
  | notText
  /-- A schema is not an object schema, where its properties are needed. -/
  | notObject
  /-- A replacement text has a malformed escape. -/
  | badReplacement
  /-- A replacement text names a group that the pattern does not have. -/
  | unknownGroup
  /-- A number does not fit where it is to be stored. -/
  | numberTooLarge
  /-- An integer has too many digits to be written. -/
  | tooManyDigits
  /-- A text is nested too deeply to be read. -/
  | nestedText
  /-- A value is too deep to be shown. -/
  | tooDeep
  /-- A value is too deep to be stored. -/
  | unwritable
  /-- The bytes of a response cannot be read in the character set that it tells. -/
  | unreadableBytes (fault : Charset.Fault)
  deriving DecidableEq, Inhabited

/-- The sorts of refusal that a request is answered with. -/
inductive Family where
  /-- Something that was named does not exist. -/
  | notFound
  /-- The flow would become illegal. -/
  | invariant
  /-- The request itself makes no sense. -/
  | input
  /-- The flow was changed in the meantime. -/
  | conflict
  deriving DecidableEq, Inhabited

namespace Failure

/-- The name of an end at the beginning of a sentence. -/
def endWord : End → String
  | .source => "Source"
  | .target => "Target"

/-- What is wrong with a value that is too deep. -/
def depthMessage : String := "Maximum serialization depth exceeded"

/-- **The wording of a failure.** -/
def message : Failure → String
  | .flowNotFound flow => "Flow with id " ++ flow ++ " not found"
  | .nodeNotFound none node flow => "Node with id " ++ node ++ " not found in flow " ++ flow
  | .nodeNotFound (some role) node flow =>
    endWord role ++ " node with id " ++ node ++ " not found in flow " ++ flow
  | .connectionNotFound connection flow =>
    "Connection with id " ++ connection ++ " not found in flow " ++ flow
  | .nodeTypeNotFound type => "Node type " ++ type ++ " not found"
  | .nameConflict name => "Node with name \"" ++ name ++ "\" already exists in this flow"
  | .invalidTarget => "Cannot create connection to trigger node. " ++
      "Trigger nodes do not accept incoming connections."
  | .linkConstraint => "Link nodes can only be connected after UI nodes (interface category)."
  | .selfConnection => "Cannot connect a node to itself"
  | .cycleDetected => "This connection would create a circular reference"
  | .duplicateConnection => "This connection already exists"
  | .sampleMissing => "sample_response is required for ApiCall schema resolution"
  | .sampleMalformed => "sample_response must be valid JSON"
  | .notApiCall node type => "Node " ++ node ++ " is not an ApiCall node (type: " ++ type ++ ")"
  | .notTransformer type => "Node type " ++ type ++ " is not a transformer"
  | .versionConflict flow expected actual =>
    "Flow " ++ flow ++ " was modified concurrently (expected version " ++ toString expected ++
      ", found " ++ toString actual ++ ")"
  | .flowExists flow => "flow already exists: " ++ flow
  | .rowExists => "a flow with this id is already in the table"
  | .duplicateNodeType type => "duplicate node type: " ++ type
  | .unknownCategory name => name ++ " is not a valid NodeCategory"
  | .unknownStatus name => name ++ " is not a valid CompatibilityStatus"
  | .malformedAddress fault => fault.message
  | .invalidDocument _ => "the document does not have the expected form"
  | .notIterable => "the value has no items"
  | .unusableKey => "the value cannot be a key"
  | .unboundValue => "the value cannot be compared with a column"
  | .notText => "the value is not a text"
  | .notObject => "the schema is not an object schema"
  | .badReplacement => "the replacement text has a malformed escape"
  | .unknownGroup => "the replacement text names an unknown group"
  | .numberTooLarge => "the number is too large"
  | .notMap => "the value is not a map"
  | .notPair index length =>
    "dictionary update sequence element #" ++ toString index ++ " has length " ++
      toString length ++ "; 2 is required"
  | .badArguments => "the arguments do not fit the operation"
  | .notNumber => "the value is not a number"
  | .tooManyDigits => "Exceeds the limit (" ++ toString Numeral.maxDigits ++ " digits) for " ++
      "integer string conversion; use sys.set_int_max_str_digits() to increase the limit"
  | .nestedText => "the text is nested too deeply"
  | .tooDeep => depthMessage
  | .unwritable => "Error serializing to JSON: ValueError: " ++ depthMessage
  | .unreadableBytes fault => fault.message

/-- The sort of refusal, for those failures that are answers to a request. -/
def family? : Failure → Option Family
  | .flowNotFound _ | .nodeNotFound .. | .connectionNotFound .. | .nodeTypeNotFound _ =>
    some .notFound
  | .nameConflict _ | .invalidTarget | .linkConstraint | .selfConnection | .cycleDetected
  | .duplicateConnection => some .invariant
  | .sampleMissing | .sampleMalformed | .notApiCall .. | .notTransformer _ => some .input
  | .versionConflict .. => some .conflict
  | _ => none

/-- The name of a failure in an answer. -/
def label? : Failure → Option String
  | .flowNotFound _ => some "FlowNotFoundError"
  | .nodeNotFound .. => some "NodeNotFoundError"
  | .connectionNotFound .. => some "ConnectionNotFoundError"
  | .nodeTypeNotFound _ => some "NodeTypeNotFoundError"
  | .nameConflict _ => some "NameConflictError"
  | .invalidTarget => some "InvalidTargetError"
  | .linkConstraint => some "LinkConstraintError"
  | .selfConnection => some "SelfConnectionError"
  | .cycleDetected => some "CycleDetectedError"
  | .duplicateConnection => some "DuplicateConnectionError"
  | .sampleMissing | .sampleMalformed => some "InvalidSampleError"
  | .notApiCall .. | .notTransformer _ => some "WrongNodeTypeError"
  | .versionConflict .. => some "FlowVersionConflictError"
  | _ => none

end Failure

/-- The status code with which a refusal of this sort is answered. -/
def Family.status : Family → Nat
  | .notFound => 404
  | .invariant => 400
  | .input => 400
  | .conflict => 409

/-- The outcome of an operation. -/
abbrev Outcome (α : Type) := Except Failure α

/-- The value of a checked reading, its defects as a failure. -/
def Checked.orFail {α : Type} : Checked α → Outcome α
  | .ok a => .ok a
  | .bad ds => .error (.invalidDocument ds)

end Workflow
