import SchemaLoom.Schema.Kind
import SchemaLoom.Text.Lines

/-!
# Failures

Everything that can keep a run from its result, by cause. Failures of reading
and writing files and of reading settings have no words of their own here:
nobody compares them.
-/

namespace SchemaLoom

/-- Why there is no result. It may be that neither chain has a schema to start
from, that a schema file is empty together with its overlay, or that a file that
must exist does not. A schema can have the wrong shape, a file can be no JSON
text, and the envelope of a dataset can be no object. There can be no input
although fields must be given. Compilers, files and settings fail for reasons of
their own. -/
inductive Failure where
  | noSource
  | emptySource (path : String)
  | sourceNotFound (path : String)
  | shape (fault : Schema.ShapeFault)
  | missingInput (fields : List String)
  | unreadable (path reason : String)
  | envelopeNotObject (path : String)
  | compiler (reason : String)
  | fileAccess
  | settings
  deriving DecidableEq, Repr

def Failure.message : Failure → String
  | .noSource =>
    "configuration error: no schema source selected; set an input schema or a dataset schema"
  | .emptySource path =>
    "configuration error: schema source " ++ path ++ " is empty and no overlay adds to it"
  | .sourceNotFound path => "schema source not found: " ++ path
  | .shape fault => fault.message
  | .missingInput fields =>
    "input is missing required fields without defaults: " ++ Text.join ", " fields
  | .unreadable path reason => "failed to parse " ++ path ++ ": " ++ reason
  | .envelopeNotObject path =>
    "failed to parse " ++ path ++ ": dataset schema envelope must be a JSON object"
  | .compiler reason => "type compiler failed: " ++ reason
  | .fileAccess => "IO error"
  | .settings => "config error"

end SchemaLoom
