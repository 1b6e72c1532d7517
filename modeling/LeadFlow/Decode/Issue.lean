import LeadFlow.Value.Display

set_option autoImplicit false

/-!
# Decode: issues

What is wrong with a value that should have been decoded: a cause, the place in the value, and the
value found there.
-/

namespace LeadFlow.Decode

/-- A step on the way to a place: a key or a position in a list. -/
inductive Place where
  | key (name : String)
  | index (n : Nat)
  deriving DecidableEq, Repr

/-- The text of a step. -/
def Place.text : Place → String
  | key name => name
  | index n => toString n

/-- A step as a value. -/
def Place.toValue : Place → Value
  | key name => .str name
  | index n => .int n

/-- Why what was read is no moment. -/
inductive MomentCause where
  | tooEarly
  | tooLate
  | notANumber
  | yearZero
  deriving DecidableEq, Repr

/-- The wording. -/
def MomentCause.message : MomentCause → String
  | tooEarly => "dates before 0000 are not supported as unix timestamps"
  | tooLate => "dates after 9999 are not supported as unix timestamps"
  | notANumber => "NaN values not permitted"
  | yearZero => "year 0 is out of range"

/-- Why a text is no date. -/
inductive DateCause where
  | tooShort
  | year
  | separator
  | month
  | dayOfMonth
  | monthRange
  | dayRange
  | extra
  /-- the text is a whole count of seconds -/
  | count (cause : MomentCause)
  deriving DecidableEq, Repr

/-- The wording. -/
def DateCause.message : DateCause → String
  | tooShort => "input is too short"
  | year => "invalid character in year"
  | separator => "invalid date separator, expected \x60-\x60"
  | month => "invalid character in month"
  | dayOfMonth => "invalid character in day"
  | monthRange => "month value is outside expected range of 1-12"
  | dayRange => "day value is outside expected range"
  | extra => "unexpected extra characters at the end of the input"
  | count cause => cause.message

/-- The cause of an issue. -/
inductive Cause where
  | missing
  | text
  | object
  | list
  /-- an object was expected; the name says of what -/
  | model (name : String)
  | attributes
  | whole
  | wholeText
  | wholeFraction
  | wholeSize
  | finite
  | number
  | numberText
  | truth
  | truthText
  | choice (options : List String)
  | noTag
  | unknownTag (tag : String) (options : List String)
  | moment
  | noMoment (cause : MomentCause)
  | momentText (cause : DateCause)
  | atLeast (bound : Int)
  | atMost (bound : Int)
  /-- a text that is no JSON, and why -/
  | notJson (reason : String)
  deriving DecidableEq, Repr

/-- Options in quotes, the last two joined by "or". -/
def orList : List String → String
  | [] => ""
  | [a] => "'" ++ a ++ "'"
  | [a, b] => "'" ++ a ++ "' or '" ++ b ++ "'"
  | a :: rest => "'" ++ a ++ "', " ++ orList rest

/-- Options in quotes, separated by commas. -/
def commaList (options : List String) : String :=
  ", ".intercalate (options.map fun o => "'" ++ o ++ "'")

/-- The wording of a cause. -/
def Cause.message : Cause → String
  | missing => "Field required"
  | text => "Input should be a valid string"
  | object => "Input should be a valid dictionary"
  | list => "Input should be a valid list"
  | model name => "Input should be a valid dictionary or instance of " ++ name
  | attributes => "Input should be a valid dictionary or object to extract fields from"
  | whole => "Input should be a valid integer"
  | wholeText => "Input should be a valid integer, unable to parse string as an integer"
  | wholeFraction => "Input should be a valid integer, got a number with a fractional part"
  | wholeSize => "Unable to parse input string as an integer, exceeded maximum size"
  | finite => "Input should be a finite number"
  | number => "Input should be a valid number"
  | numberText => "Input should be a valid number, unable to parse string as a number"
  | truth => "Input should be a valid boolean"
  | truthText => "Input should be a valid boolean, unable to interpret input"
  | choice options => "Input should be " ++ orList options
  | noTag => "Unable to extract tag using discriminator 'type'"
  | unknownTag tag options =>
    "Input tag '" ++ tag ++ "' found using 'type' does not match any of the expected tags: " ++
      commaList options
  | moment => "Input should be a valid datetime"
  | noMoment cause => "Input should be a valid datetime, " ++ cause.message
  | momentText cause => "Input should be a valid datetime or date, " ++ cause.message
  | atLeast bound => s!"Input should be greater than or equal to {bound}"
  | atMost bound => s!"Input should be less than or equal to {bound}"
  | notJson _ => "JSON decode error"

/-- The short name of a cause. -/
def Cause.code : Cause → String
  | missing => "missing"
  | text => "string_type"
  | object => "dict_type"
  | list => "list_type"
  | model _ => "model_type"
  | attributes => "model_attributes_type"
  | whole => "int_type"
  | wholeText => "int_parsing"
  | wholeFraction => "int_from_float"
  | wholeSize => "int_parsing_size"
  | finite => "finite_number"
  | number => "float_type"
  | numberText => "float_parsing"
  | truth => "bool_type"
  | truthText => "bool_parsing"
  | choice _ => "enum"
  | noTag => "union_tag_not_found"
  | unknownTag .. => "union_tag_invalid"
  | moment => "datetime_type"
  | noMoment _ => "datetime_parsing"
  | momentText _ => "datetime_from_date_parsing"
  | atLeast _ => "greater_than_equal"
  | atMost _ => "less_than_equal"
  | notJson _ => "json_invalid"

/-- What the wording was made from, where a cause keeps it. -/
def Cause.context? : Cause → Option Fields
  | model name => some [("class_name", .str name)]
  | choice options => some [("expected", .str (orList options))]
  | noTag => some [("discriminator", .str "'type'")]
  | unknownTag tag options =>
    some [("discriminator", .str "'type'"), ("tag", .str tag), ("expected_tags", .str (commaList options))]
  | noMoment cause => some [("error", .str cause.message)]
  | momentText cause => some [("error", .str cause.message)]
  | atLeast bound => some [("ge", .int bound)]
  | atMost bound => some [("le", .int bound)]
  | notJson reason => some [("error", .str reason)]
  | _ => none

/-- An issue: where, why, and the value found. -/
structure Issue where
  place : List Place
  cause : Cause
  found : Value
  deriving Repr

/-- The issue seen from one step further out. -/
def Issue.under (p : Place) (i : Issue) : Issue := { i with place := p :: i.place }

/-- The issue as fields. -/
def Issue.toFields (i : Issue) : Fields :=
  [("type", .str i.cause.code), ("loc", .list (i.place.map Place.toValue)),
    ("msg", .str i.cause.message), ("input", i.found)] ++
    (i.cause.context?.map fun c => ("ctx", Value.object c)).toList

/-- Place and wording. -/
def Issue.text (i : Issue) : String :=
  ".".intercalate (i.place.map Place.text) ++ ": " ++ i.cause.message

/-- All issues in one line. -/
def issuesText (is : List Issue) : String := "; ".intercalate (is.map Issue.text)

end LeadFlow.Decode
