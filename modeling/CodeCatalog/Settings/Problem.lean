/-
What is wrong with data that should be settings.

A problem tells the way to the datum, the cause, and the datum itself. The cause fixes both the name
of the problem's type and its wording.
-/
import CodeCatalog.Failure
import CodeCatalog.Settings.Datum
import CodeCatalog.Settings.Model

set_option autoImplicit false

namespace CodeCatalog.Settings

/-- A step on the way to a datum: the name of a setting, or the number of an item. -/
inductive Step
  | setting (name : String)
  | item (index : Nat)
  deriving Repr, DecidableEq

/-- A step in words. -/
def Step.text : Step → String
  | setting name => name
  | item index => toString index

/-- The sections of the settings, and the whole. -/
inductive Section
  | output
  | logging
  | index
  | limits
  | all
  deriving Repr, DecidableEq

/-- The name of a section's form in messages. -/
def Section.formName : Section → String
  | output => "LogOutputConfig"
  | logging => "LoggingConfig"
  | index => "IndexConfig"
  | limits => "LimitsConfig"
  | all => "CodeIndexerConfig"

/-- The section whose form has a name in messages. -/
def Section.ofFormName? (s : String) : Option Section :=
  [output, logging, index, limits, all].find? (·.formName = s)

/-- What a datum fails to be. -/
inductive Cause
  | notSection (of : Section)
  | notList
  | notText
  | notUnicode
  | notOneOf (names : List String)
  | notWhole
  | wholeUnreadable
  | wholeTooLong
  | hasFraction
  | notFinite
  | notReal
  | realUnreadable
  | notExpected
  | relativeFile (destination : String)
  | smallHeap (megabytes : Int)
  | smallHeapPerThread (megabytes threads : Int)
  | negativeThreads (threads : Int)
  | badLimit (limit : Int)
  deriving Repr, DecidableEq

/-- Quoted alternatives in a sentence. -/
def alternatives (names : List String) : String :=
  match (names.map fun n => "'" ++ n ++ "'").reverse with
  | [] => ""
  | [last] => last
  | last :: before => ", ".intercalate before.reverse ++ " or " ++ last

namespace Cause

/-- The type of a problem. -/
def typeName : Cause → String
  | notSection _ => "model_type"
  | notList => "list_type"
  | notText => "string_type"
  | notUnicode => "string_unicode"
  | notOneOf _ => "literal_error"
  | notWhole => "int_type"
  | wholeUnreadable => "int_parsing"
  | wholeTooLong => "int_parsing_size"
  | hasFraction => "int_from_float"
  | notFinite => "finite_number"
  | notReal => "float_type"
  | realUnreadable => "float_parsing"
  | notExpected => "extra_forbidden"
  | relativeFile _ => "value_error"
  | smallHeap _ => "value_error"
  | smallHeapPerThread _ _ => "value_error"
  | negativeThreads _ => "value_error"
  | badLimit _ => "value_error"

/-- The rule that a value of the right type breaks, in words. -/
def brokenRule (rule : String) : String :=
  "Value error, " ++ rule

/-- The rule as one that names numbers. If one of them has too many digits to be written out, that
is what is reported instead. -/
def brokenNumberRule (numbers : List Int) (rule : String) : String :=
  brokenRule <|
    if numbers.all fun n => (Scalar.int n).canDescribe then rule else Fault.numberTooLong.message

/-- The wording of a problem. -/
def message : Cause → String
  | notSection of => "Input should be a valid dictionary or instance of " ++ of.formName
  | notList => "Input should be a valid list"
  | notText => "Input should be a valid string"
  | notUnicode =>
    "Input should be a valid string, unable to parse raw data as a unicode string"
  | notOneOf names => "Input should be " ++ alternatives names
  | notWhole => "Input should be a valid integer"
  | wholeUnreadable =>
    "Input should be a valid integer, unable to parse string as an integer"
  | wholeTooLong =>
    "Unable to parse input string as an integer, exceeded maximum size"
  | hasFraction =>
    "Input should be a valid integer, got a number with a fractional part"
  | notFinite => "Input should be a finite number"
  | notReal => "Input should be a valid number"
  | realUnreadable =>
    "Input should be a valid number, unable to parse string as a number"
  | notExpected => "Extra inputs are not permitted"
  | relativeFile destination =>
    brokenRule ("File destination must be absolute path: " ++ destination)
  | smallHeap megabytes =>
    brokenNumberRule [megabytes] ("writer_heap_size_mb must be >= " ++
      toString minThreadMegabytes ++ ", got " ++ toString megabytes)
  | smallHeapPerThread megabytes threads =>
    brokenNumberRule [megabytes, threads] ("writer_heap_size_mb must be >= " ++
      toString minThreadMegabytes ++ " per thread, got " ++ toString megabytes ++ " for " ++
      toString threads ++ " threads")
  | negativeThreads threads =>
    brokenNumberRule [threads] ("writer_num_threads must be >= 0, got " ++ toString threads)
  | badLimit limit =>
    brokenNumberRule [limit]
      ("Limit must be 1-" ++ toString maxResults ++ ", got " ++ toString limit)

end Cause

/-- Something wrong with a datum. -/
structure Problem where
  /-- The way from the checked datum to the one that is wrong. -/
  way : List Step := []
  cause : Cause
  found : Datum
  deriving Repr

/-- The problem as seen from one step further out. -/
def Problem.below (step : Step) (p : Problem) : Problem :=
  { p with way := step :: p.way }

/-- A step as a JSON value. -/
def Step.toJson : Step → Json.Value
  | setting name => .text name
  | item index => .int index

/-- A problem as a record, without the datum. -/
def Problem.toRecord (p : Problem) : Json.Value :=
  .object [("loc", .list (p.way.map Step.toJson)), ("type", .text p.cause.typeName),
    ("msg", .text p.cause.message)]

/-- The way to a problem in words. -/
def Problem.wayText (p : Problem) : String :=
  ".".intercalate (p.way.map Step.text)

end CodeCatalog.Settings
