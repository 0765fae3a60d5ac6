/-
The settings of the catalogue: how it logs, how the index is kept, and how many results a search
gives.
-/
import CodeCatalog.Decimal.Binary64
import CodeCatalog.Log.Event

set_option autoImplicit false

namespace CodeCatalog

/-- How log events are written. -/
inductive LogFormat
  | json
  | console
  deriving Repr, DecidableEq, Inhabited

/-- The name of a format. -/
def LogFormat.name : LogFormat → String
  | json => "json"
  | console => "console"

/-- One place that log events are written to: a standard stream or a file with an absolute path.
Without a level of its own it takes that of the logging settings. -/
structure LogOutput where
  format : LogFormat := .console
  destination : String := "stderr"
  level : Option Log.Level := none
  deriving Repr, DecidableEq, Inhabited

/-- How the catalogue logs. -/
structure LogSettings where
  level : Log.Level := .info
  outputs : List LogOutput := [{}]
  deriving Repr, DecidableEq, Inhabited

/-- The default of the readers' interval, a twentieth of a second. -/
def defaultInterval : Binary64 := .ofRatio false 1 20

/-- How the index is kept. -/
structure IndexSettings where
  indexPath : Option String := none
  writerHeapMegabytes : Int := 128
  writerThreads : Int := 0
  refreshInterval : Binary64 := defaultInterval
  deriving Repr, DecidableEq, Inhabited

/-- The most results that a search gives when its caller does not say. -/
structure LimitSettings where
  byName : Int := 100
  byKind : Int := 1000
  byParent : Int := 1000
  advanced : Int := 100
  deriving Repr, DecidableEq, Inhabited

/-- All settings. -/
structure Settings where
  logging : LogSettings := {}
  index : IndexSettings := {}
  limits : LimitSettings := {}
  deriving Repr, DecidableEq, Inhabited

/-- The most results that any search gives. -/
def maxResults : Int := 10000

/-- The least memory in megabytes for each thread that writes. -/
def minThreadMegabytes : Int := 15

/-- The folder of a catalogue's own files below the folder of the code. -/
def catalogFolder : String := ".codeindexer"

/-- The settings file in that folder. -/
def settingsFile : String := "config.yaml"

/-- The folder of the user's settings file below the home folder. -/
def userFolder : String := ".config/codeindexer"

/-- The folder of the index unless the settings name another one. -/
def defaultIndexFolder : String := "index"

end CodeCatalog
