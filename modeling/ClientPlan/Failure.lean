import ClientPlan.Naming.Module
import ClientPlan.Pattern.Fault
import ClientPlan.Text.Charset

/-!
# Failures

Everything that can go wrong, as causes: in the document, in the configuration, in a record that is
built from the document, in the file tree, or in planning itself.  The wording of the failures that
are reported to the user is in the `message` functions, their exit codes in `Failure.exitCode`.
-/

set_option autoImplicit false

namespace ClientPlan

/-! ## Documents -/

/-- Why a document cannot be loaded, read or followed. -/
inductive DocumentError where
  /-- There is no file at the path. -/
  | fileNotFound (path : String)
  /-- The server answered with a status other than success. -/
  | badStatus (status : Int) (url : String)
  /-- The server could not be reached. -/
  | fetchFailed (url reason : String)
  /-- The document is blank. -/
  | blank (source : String)
  /-- The text is neither JSON nor YAML. -/
  | unparsable
  /-- The text holds a value of another kind than a mapping. -/
  | notAMapping (kind : String)
  /-- The document follows the specification before OpenAPI. -/
  | swagger (version : String)
  /-- The document does not say which specification it follows. -/
  | missingVersion
  /-- The document follows a specification other than OpenAPI 3. -/
  | unsupportedVersion (version : String)
  /-- A reference leaves the document. -/
  | externalReference (ref : String)
  /-- A reference goes through a key that is not there. -/
  | missingKey (ref key : String)
  /-- A reference goes through an index that is not there. -/
  | badIndex (ref segment : String)
  /-- A reference goes through a value without parts. -/
  | notNavigable (ref kind : String)
  /-- A chain of references meets a reference again. -/
  | circularReference (ref : String)
deriving DecidableEq, Repr

/-- The message of a document error. -/
def DocumentError.message : DocumentError → String
  | fileNotFound path => "Spec file not found: " ++ path
  | badStatus status url => "HTTP " ++ toString status ++ " fetching spec from " ++ url
  | fetchFailed url reason => "Failed to fetch spec from " ++ url ++ ": " ++ reason
  | blank source => "Empty document: " ++ source
  | unparsable => "Failed to parse spec as JSON or YAML"
  | notAMapping kind => "Spec must be a JSON/YAML object (got " ++ kind ++ ")"
  | swagger version =>
    "Swagger " ++ version ++ " is not supported. Only OpenAPI 3.x documents can be processed."
  | missingVersion => "Missing 'openapi' field. Is this an OpenAPI 3.x document?"
  | unsupportedVersion version => "Unsupported OpenAPI version: " ++ version
  | externalReference ref =>
    "External $ref not supported: " ++ ref ++ ". Only internal references (#/...) are handled."
  | missingKey ref key =>
    "Cannot resolve $ref '" ++ ref ++ "': key '" ++ key ++ "' not found at path"
  | badIndex ref segment =>
    "Cannot resolve $ref '" ++ ref ++ "': invalid array index '" ++ segment ++ "'"
  | notNavigable ref kind => "Cannot resolve $ref '" ++ ref ++ "': cannot navigate into " ++ kind
  | circularReference ref => "Circular $ref chain through '" ++ ref ++ "'"

/-! ## Records -/

/-- A step of the location of an issue. -/
inductive Step where
  /-- A field or a key. -/
  | field (name : String)
  /-- An index or a numeric key. -/
  | index (n : Int)
deriving DecidableEq, Repr

/-- What is wrong with a field of a record. -/
inductive IssueKind where
  /-- The value is no text. -/
  | notText
  /-- The value holds octets that are no text. -/
  | notTextOctets
  /-- The value cannot stand for a truth value. -/
  | notBoolean
  /-- The value is a text or a number that stands for no truth value. -/
  | unreadableBoolean
  /-- The value is no list. -/
  | notList
  /-- The record has no such field. -/
  | unknownField
  /-- The fields are valid but contradict each other. -/
  | contradiction (message : String)
deriving DecidableEq, Repr

/-- Something wrong with a record, and where. -/
structure Issue where
  /-- Where in the record. -/
  location : List Step
  /-- What is wrong. -/
  kind : IssueKind
deriving DecidableEq, Repr

/-- How a part of a document breaks what the reader takes for granted. -/
inductive Malformed where
  /-- Entries are wanted of a value that is no mapping. -/
  | noEntries
  /-- A reference is neither a text nor octets. -/
  | referenceNotText
  /-- A reference is given in octets. -/
  | referenceOctets
  /-- Members are wanted of a value without members. -/
  | noMembers
  /-- A list, a mapping or a set stands where a key is needed. -/
  | notAKey
  /-- A number or a date that does not exist, or is too long to be read. -/
  | badScalar
  /-- An escape with a number that is too large to be looked up as the code of a character. -/
  | hugeCode
  /-- An escape that stands for half of a surrogate pair, so that the text is no sequence of
  characters. -/
  | loneSurrogate
  /-- Parts that stand deeper inside one another than the interpreter follows. -/
  | tooDeep
  /-- A number without any character. -/
  | emptyScalar
  /-- A number with so many places that the unit of the first is beyond all doubles. -/
  | hugeUnit
  /-- A word that is no truth value. -/
  | unknownWord
  /-- A moment that has not the form of one. -/
  | noMoment
  /-- A mapping stands for a moment. -/
  | mappedMoment
  /-- Octets that are no UTF-8. -/
  | undecodable
  /-- A name of a policy that is relative to nothing. -/
  | relativeName
  /-- An address that is none. -/
  | badAddress
  /-- Content whose charset cannot be read. -/
  | badCharset (fault : Text.CharsetFault)
deriving DecidableEq, Repr

/-! ## Configuration -/

/-- Why there is no valid configuration. -/
inductive ConfigError where
  /-- There is no file at the path that was asked for. -/
  | fileNotFound (path : String)
  /-- The file cannot be read as JSON. -/
  | unreadableFile (path : String)
  /-- The file holds a value other than an object. -/
  | notAnObject (path : String)
  /-- The section of the file is a value other than an object. -/
  | sectionNotAnObject (path : String)
  /-- The options are not valid; the source is missing if no file was asked for. -/
  | invalidOptions (source : Option String) (issues : List Issue)
  /-- The environment variable for tags holds no truth value. -/
  | notBoolean (text : String)
  /-- The name of a policy has not the form of one. -/
  | malformedPolicy (name : String)
  /-- Nothing of this name can be loaded. -/
  | unknownPolicy (name : String)
  /-- What the name stands for is no policy. -/
  | notAPolicy (name : String)
deriving DecidableEq, Repr

/-- The message of a configuration error. -/
def ConfigError.message : ConfigError → String
  | fileNotFound path => "Config file not found: " ++ path
  | unreadableFile path => "Invalid project config at " ++ path
  | notAnObject path => "Invalid project config at " ++ path ++ ": expected a JSON object"
  | sectionNotAnObject path =>
    "Invalid project config at " ++ path ++ ": 'generator' must be an object"
  | invalidOptions (some source) _ => "Invalid generator config at " ++ source
  | invalidOptions none _ => "Invalid generator config"
  | notBoolean text => "SPECGEN_USE_TAGS must be a boolean, got '" ++ text ++ "'"
  | malformedPolicy name => "Invalid processor '" ++ name ++ "': expected 'module:ClassName'"
  | unknownPolicy name => "Cannot load processor '" ++ name ++ "'"
  | notAPolicy name => "Processor '" ++ name ++ "' is not a Processor subclass"

/-! ## Files -/

/-- Why an operation on the file tree fails. -/
inductive FileError where
  /-- The path leads to a directory where a file is needed. -/
  | isADirectory
  /-- The path is taken by something that is no directory. -/
  | taken
  /-- The path goes through something that is no directory. -/
  | notADirectory
  /-- There is nothing at the path. -/
  | notFound
  /-- The path or a name in it is too long. -/
  | nameTooLong
  /-- The path leads to a directory by a step that is no name. -/
  | busy
  /-- The path has a null character. -/
  | nullCharacter
  /-- The device refuses the operation. -/
  | refused
  /-- The user has no home directory. -/
  | noHome
deriving DecidableEq, Repr

/-- Whether an operation fails as the operating system lets it fail.  A path with a null character does
not get as far as that, nor does a home directory that cannot be found. -/
def FileError.isSystem : FileError → Bool
  | nullCharacter | noHome => false
  | _ => true

/-! ## All failures -/

/-- A failure of any part of the program. -/
inductive Failure where
  /-- The document cannot be loaded, read or followed. -/
  | document (e : DocumentError)
  /-- A placeholder of a path has no declared parameter. -/
  | unboundPlaceholder (path placeholder : String) (operationId : Option String)
  /-- An interface file lands on a module that has a file. -/
  | unsupportedMerge (target : ModuleName)
  /-- The configuration is not valid. -/
  | config (e : ConfigError)
  /-- A record built from the document is not valid. -/
  | invalid (issues : List Issue)
  /-- The document breaks what the reader takes for granted. -/
  | malformed (m : Malformed)
  /-- An operation on the file tree fails. -/
  | file (e : FileError)
  /-- A renderer refuses a file unit. -/
  | refused (message : String)
  /-- A pattern of the configuration cannot be used. -/
  | pattern (fault : Pattern.Fault)
deriving DecidableEq, Repr

/-- The groups of failures that are reported to the user. -/
inductive Category where
  /-- A failure of no special group. -/
  | general
  /-- The command was called in a wrong way. -/
  | usage
  /-- The document cannot be used. -/
  | document
  /-- A placeholder has no parameter. -/
  | lookup
  /-- Two files claim one module. -/
  | merge
  /-- The configuration cannot be used. -/
  | config
deriving DecidableEq, Repr

/-- The exit code of a group. -/
def Category.exitCode : Category → Nat
  | general => 1
  | usage => 2
  | document => 7
  | lookup => 8
  | merge => 9
  | config => 1

/-- The group of a failure, or `none` for a failure that is not expected. -/
def Failure.category? : Failure → Option Category
  | document _ => some .document
  | unboundPlaceholder .. => some .lookup
  | unsupportedMerge _ => some .merge
  | config _ => some .config
  | refused _ => some .general
  | invalid _ | malformed _ | file _ | pattern _ => none

/-- The exit code of a failure. -/
def Failure.exitCode (e : Failure) : Nat :=
  (e.category?.getD .general).exitCode

/-- The message about a placeholder without a parameter; an empty operation id is left out. -/
def unboundPlaceholderMessage (path placeholder : String) (operationId : Option String) : String :=
  let suffix := match operationId with
    | none => ""
    | some id => if id == "" then "" else " (operation '" ++ id ++ "')"
  "Path '" ++ path ++ "' uses placeholder '\x7b" ++ placeholder ++
    "\x7d' but no parameter named '" ++ placeholder ++ "' is declared" ++ suffix

/-- The message about a module that two files claim. -/
def unsupportedMergeMessage (dotted : String) : String :=
  "Cannot merge interface file into module '" ++ dotted ++
    "': a concrete file already targets the same module"

/-- The message of a failure that is reported to the user. -/
def Failure.message? : Failure → Option String
  | document e => some e.message
  | unboundPlaceholder path placeholder id =>
    some (unboundPlaceholderMessage path placeholder id)
  | unsupportedMerge m => some (unsupportedMergeMessage m.dotted)
  | config e => some e.message
  | refused message => some message
  | invalid _ | malformed _ | file _ | pattern _ => none

end ClientPlan
