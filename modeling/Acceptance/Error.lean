import Acceptance.Json.Outline
import Acceptance.Host.Errno
import Acceptance.Text.Quoted

/-!
# Errors (specification, section 7)

What can go wrong, by cause, and the text that is shown for it.

* `IoCause`: why a file operation failed.
* `ConfigProblem`, `RetrievalProblem`, `LaunchProblem`: what is wrong with a configuration, with
  reading records back, and with a run of the destination.
* `Error`, `Error.message`: the errors and their texts.
* `Error.isConfiguration`: the errors that come from how the suite was set up; they abort a run, and
  all others only fail a case.
-/

namespace Acceptance

/-- Why a file operation failed: an error number, octets that are no text, a path with a NUL, or a
reason of another kind. -/
inductive IoCause where
  | number (n : Int)
  | notText
  | nulInPath
  | stated (text : String)
deriving DecidableEq, Repr

/-- The text of a cause. -/
def IoCause.message : IoCause → String
  | number n => Host.Errno.text n ++ " (os error " ++ toString n ++ ")"
  | notText => "stream did not contain valid UTF-8"
  | nulInPath => "file name contained an unexpected NUL byte"
  | stated text => text

/-- What is wrong with a configuration, or with the documents it names. -/
inductive ConfigProblem where
  | stated (text : String)
  | unreadable
  | unprintable
  | unknownCase (name : String)
  | notAnObject (path : String)
  | catalogAlone
  | messagesAlone
  | unlistedRecord (stream : String) (space : Option String)
  | badMessage (path : String) (line : Nat) (fault : Json.Fault)
  | malformedParameter (piece : String)
  | invalidPort (text : String)
  | noPool (reason : String)
deriving DecidableEq, Repr

/-- Why the records of a stream could not be read back. -/
inductive RetrievalProblem where
  | stated (text : String)
  | nullCell
  | malformedCell (fault : Json.Fault)
  | noDatabase (path : String)
  | notOpened (reason : String)
  | notConnected (reason : String)
  | queryFailed (stream reason : String)
  | rowUnread (stream reason : String)
deriving DecidableEq, Repr

/-- Why a run of the destination gave no answer. -/
inductive LaunchProblem where
  | stated (text : String)
  | notStarted (binary : String) (cause : IoCause)
  | overdue (image command : String) (limit : Nat)
  | exited (image command : String) (code : Option Int) (tail : String)
  | silent (image wanted : String)
deriving DecidableEq, Repr

/-- An error. -/
inductive Error where
  | notConfigured (what : String)
  | resourceUnavailable (path : String) (cause : IoCause)
  | retrieval (problem : RetrievalProblem)
  | config (problem : ConfigProblem)
  | launch (problem : LaunchProblem)
  | lifecycle (text : String)
  | io (cause : IoCause)
  | yaml
  | json (fault : Json.Fault)
  | database (text : String)
  | other (text : String) (source : Option String)
deriving DecidableEq, Repr

/-- The text of a fault in a JSON text. -/
def Json.Fault.message : Json.Fault → String
  | incomplete => "the text ends too early"
  | malformed => "the text is malformed"
  | unsuitable => "the value is not of the kind expected"

/-- The names of the cases, in a message about a name that is none of them. -/
def knownCases : String := "spec, check_success, check_failure, sync_round_trip"

/-- The text of a problem with a configuration. -/
def ConfigProblem.message : ConfigProblem → String
  | stated text => text
  | unreadable => "failed to parse config: the text is not a configuration"
  | unprintable => "render config: a number is out of range"
  | unknownCase name => "unknown test case " ++ name ++ " (expected one of " ++ knownCases ++ ")"
  | notAnObject path => path ++ " does not contain a JSON object"
  | catalogAlone => "catalog_path is set but messages_path is not"
  | messagesAlone => "messages_path is set but catalog_path is not"
  | unlistedRecord stream space =>
    "record for stream " ++ stream ++ " (namespace " ++ Text.quoteOption space ++
      ") is not in the catalog"
  | badMessage path line fault => path ++ ":" ++ toString line ++ ": " ++ fault.message
  | malformedParameter piece => "malformed connection parameter " ++ Text.quote piece
  | invalidPort text => "invalid port " ++ Text.quote text
  | noPool reason => "create postgres pool: " ++ reason

/-- The column that holds the records. -/
def dataColumn : String := "_airbyte_data"

/-- The text of a problem with reading records back. -/
def RetrievalProblem.message : RetrievalProblem → String
  | stated text => text
  | nullCell => "null " ++ dataColumn ++ " value"
  | malformedCell fault => "invalid JSON in " ++ dataColumn ++ ": " ++ fault.message
  | noDatabase path => "duckdb database not found: " ++ path
  | notOpened reason => "open duckdb: " ++ reason
  | notConnected reason => "get postgres connection: " ++ reason
  | queryFailed stream reason => "stream " ++ stream ++ ": " ++ reason
  | rowUnread stream reason => "read " ++ stream ++ " row: " ++ reason

/-- The text of a problem with a run. -/
def LaunchProblem.message : LaunchProblem → String
  | stated text => text
  | notStarted binary cause => "spawn " ++ binary ++ ": " ++ cause.message
  | overdue image command limit =>
    image ++ " " ++ command ++ " timed out after " ++ toString limit ++ "ms"
  | exited image command code tail =>
    image ++ " " ++ command ++ " exited with " ++ (code.map toString).getD "signal" ++ ": " ++ tail
  | silent image wanted => image ++ " emitted no " ++ wanted ++ " message"

/-- The text of an error. -/
def Error.message : Error → String
  | notConfigured what => "not configured: " ++ what
  | resourceUnavailable path cause => "resource unavailable at " ++ path ++ ": " ++ cause.message
  | retrieval problem => "record retrieval failed: " ++ problem.message
  | config problem => "config error: " ++ problem.message
  | launch problem => "destination launch error: " ++ problem.message
  | lifecycle text => "lifecycle error: " ++ text
  | io cause => "io error: " ++ cause.message
  | yaml => "yaml parse error: the text is not a configuration"
  | json fault => "json error: " ++ fault.message
  | database text => "duckdb error: " ++ text
  | other text _ => text

/-- The text of the cause behind an error, where there is one. -/
def Error.source : Error → Option String
  | resourceUnavailable _ cause => some cause.message
  | io cause => some cause.message
  | yaml => some "the text is not a configuration"
  | json fault => some fault.message
  | database text => some text
  | other _ source => source
  | _ => none

/-- Whether an error comes from how the suite was set up, and not from the destination
(section 7). -/
def Error.isConfiguration : Error → Bool
  | notConfigured _ | resourceUnavailable _ _ | config _ | json _ | yaml => true
  | _ => false

end Acceptance
