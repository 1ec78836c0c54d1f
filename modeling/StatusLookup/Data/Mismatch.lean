import StatusLookup.Number.Layout
import StatusLookup.Status
import StatusLookup.Text.Quoted

/-!
# Well-formed data of the wrong shape

A text can be well formed in its notation and still not be what a reader wants. `Mismatch` names
the ways; how nothing and fractions are called depends on the notation.
-/

namespace StatusLookup

/-- How a notation calls what has no name of its own in it. -/
structure Wording where
  /-- The name of a value that is nothing. -/
  nothing : String
  /-- The layout of numbers that are not whole. -/
  decimals : DecimalLayout

inductive Found where
  | nothing
  | boolean (b : Bool)
  | integer (n : Int)
  /-- An integer that needs more than 64 bits. -/
  | wideInteger (n : Int)
  | real (negative : Bool) (x : Binary64)
  | infinite (negative : Bool)
  | notANumber
  | text (s : String)
  | sequence
  | mapping

/-- The found value as it is named in a message. -/
def Found.describe (w : Wording) : Found → String
  | nothing => w.nothing
  | boolean b => "boolean `" ++ (if b then "true" else "false") ++ "`"
  | integer n => "integer `" ++ toString n ++ "`"
  | wideInteger n =>
    "integer `" ++ toString n ++ (if n < 0 then "` as i128" else "` as u128")
  | real negative x => "floating point `" ++ w.decimals.render negative x ++ "`"
  | infinite negative => if negative then "floating point `-inf`" else "floating point `inf`"
  | notANumber => "floating point `NaN`"
  | text s => "string " ++ Text.quoted s
  | sequence => "sequence"
  | mapping => "map"

inductive Wanted where
  | anything
  | text
  | sequence
  | fieldName
  | path
  | config
  | storeConfig
  deriving DecidableEq

def Wanted.describe : Wanted → String
  | anything => "any value"
  | text => "a string"
  | sequence => "a sequence"
  | fieldName => "field identifier"
  | path => "path string"
  | config => "struct Config"
  | storeConfig => "struct StoreConfig"

/-- Why data that is well formed was refused. -/
inductive Mismatch where
  | wrongType (found : Found) (wanted : Wanted)
  | missingField (name : String)
  | duplicateField (name : String)
  | invalidStatus (e : InvalidStatus)
  /-- Neither a text nor a reference to a variable. -/
  | noEnvValue
  /-- A value with a tag of its own where its shape decides what it is. -/
  | tagged

def Mismatch.message (w : Wording) : Mismatch → String
  | wrongType found wanted =>
    "invalid type: " ++ found.describe w ++ ", expected " ++ wanted.describe
  | missingField name => "missing field `" ++ name ++ "`"
  | duplicateField name => "duplicate field `" ++ name ++ "`"
  | invalidStatus e => e.message
  | noEnvValue => "data did not match any variant of untagged enum EnvValue"
  | tagged => "untagged and internally tagged enums do not support enum input"

end StatusLookup
