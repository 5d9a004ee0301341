import DatasetForm.Shape
import DatasetForm.Text.Utf8Message
import DatasetForm.Value.Text

/-!
The ways in which an operation on values can fail, and the text of each.

Most of them are a value of the wrong kind meeting an operation that it does not have: a rule that runs
into one reports its text as the outcome of the field.
-/

set_option autoImplicit false
set_option relaxedAutoImplicit false

namespace DatasetForm

/-- The comparisons by which values are put in order. -/
inductive Comparison
  | less
  | lessOrEqual
  | greater
  | greaterOrEqual
  deriving DecidableEq, Repr

namespace Comparison

/-- The sign of a comparison. -/
def sign : Comparison → String
  | .less => "<"
  | .lessOrEqual => "<="
  | .greater => ">"
  | .greaterOrEqual => ">="

/-- Does the comparison hold of two values in the given order? -/
def holds : Comparison → Ordering → Bool
  | .less, o => o == .lt
  | .lessOrEqual, o => o != .gt
  | .greater, o => o == .gt
  | .greaterOrEqual, o => o != .lt

end Comparison

/-- Why an operation failed. Kinds of values are given by the names that messages use. -/
inductive Failure
  /-- A row cannot be made from a value of this kind. -/
  | cannotBuild (row kind : String)
  /-- A value of this kind has no such operation. -/
  | noOperation (kind operation : String)
  /-- A text had to be normalized, and the value is none. -/
  | notNormalizable (kind : String)
  /-- A document does not have the expected shape. -/
  | shape (fault : ShapeFault)
  /-- A value had to hold items. -/
  | notIterable (kind : String)
  /-- A value had to have a length. -/
  | noLength (kind : String)
  /-- A value has no items that can be picked out. -/
  | notIndexable (kind : String)
  /-- A mapping holds nothing under the key. -/
  | missingKey (key : Value)
  /-- A value cannot be looked up in a table. -/
  | unhashable (kind : String)
  /-- Two values have no order. -/
  | notComparable (comparison : Comparison) (left right : String)
  /-- Two values have no product. -/
  | notMultiplied (left right : String)
  /-- A text or list can be repeated a whole number of times only. -/
  | notRepeated (kind : String)
  /-- A text can be continued with a text only. -/
  | notJoined (left right : String)
  /-- A whole number is past the largest binary number. -/
  | tooLargeForBinary
  /-- A quotient is past the largest binary number. -/
  | quotientTooLarge
  /-- What is not a number has no nearest whole number. -/
  | nanToWhole
  /-- An infinite number has no nearest whole number. -/
  | infiniteToWhole
  /-- A text holds a sign that stands for a digit but is none. -/
  | notWhole (text : String)
  /-- A text has more digits than are read as a number. -/
  | tooManyDigits (digits : Nat)
  /-- A text holds half of a surrogate pair, and has to be written. -/
  | notEncodable (fault : HalfFault)
  /-- A document is nested too deeply. -/
  | tooDeep
  /-- A path holds the character that ends paths. -/
  | nulInPath
  /-- There is no severity of this name. -/
  | unknownSeverity (name : Value)
  /-- There is no setting of this name. -/
  | unknownSetting (name : String)
  /-- The share of a length from which on it is near its limit is not a share. -/
  | ratioOutOfRange
  /-- A quiet period is negative. -/
  | negativeDebounce
  /-- A date row to be written has neither a start nor an end. -/
  | emptyDateRow (kind : Value)
  /-- A timer that was disposed of was asked to schedule a call. -/
  | disposed
  /-- There is no clock to schedule calls on. -/
  | noClock
  /-- A rule failed by itself. -/
  | raised (kind : String) (detail : Value)

namespace Failure

/-- A fault in the shape of a document. -/
def ofShape (fault : ShapeFault) : Failure :=
  match fault.problem with
  | .notEncodable fault => .notEncodable fault
  | _ => .shape fault

/-- The most digits that are read as a number. -/
def digitLimit : Nat := 4300

/-- Is the failure one of what can be read and written at all, rather than of what is read? -/
def isLimit : Failure → Bool
  | .tooManyDigits _ | .tooDeep | .notEncodable _ => true
  | _ => false

/-- The text of a failure. -/
def message : Failure → String
  | .cannotBuild row kind => s!"Cannot build {row} from {kind}"
  | .noOperation kind operation => s!"'{kind}' object has no attribute '{operation}'"
  | .notNormalizable kind => s!"normalize() argument 2 must be str, not {kind}"
  | .shape fault => fault.message
  | .notIterable kind => s!"'{kind}' object is not iterable"
  | .noLength kind => s!"object of type '{kind}' has no len()"
  | .notIndexable kind => s!"'{kind}' object is not subscriptable"
  | .missingKey key => key.shown
  | .unhashable kind => s!"unhashable type: '{kind}'"
  | .notComparable comparison left right =>
    s!"'{comparison.sign}' not supported between instances of '{left}' and '{right}'"
  | .notMultiplied left right => s!"unsupported operand type(s) for *: '{left}' and '{right}'"
  | .notRepeated kind => s!"can't multiply sequence by non-int of type '{kind}'"
  | .notJoined left right =>
    if left == "str" then s!"can only concatenate str (not \"{right}\") to str"
    else s!"unsupported operand type(s) for +=: '{left}' and '{right}'"
  | .tooLargeForBinary => "int too large to convert to float"
  | .quotientTooLarge => "integer division result too large for a float"
  | .nanToWhole => "cannot convert float NaN to integer"
  | .infiniteToWhole => "cannot convert float infinity to integer"
  | .notWhole text => s!"invalid literal for int() with base 10: {Text.quoted text}"
  | .tooManyDigits digits =>
    s!"Exceeds the limit ({digitLimit} digits) for integer string conversion: value has {digits} digits; use sys.set_int_max_str_digits() to increase the limit"
  | .notEncodable fault => fault.message
  | .tooDeep => "maximum recursion depth exceeded"
  | .nulInPath => "stat: embedded null character in path"
  | .unknownSeverity name => s!"{name.shown} is not a valid Severity"
  | .unknownSetting name => s!"Unexpected keyword argument '{name}'"
  | .ratioOutOfRange => "length_warning_ratio must be in (0, 1]"
  | .negativeDebounce => "debounce intervals must not be negative"
  | .emptyDateRow kind =>
    let name := if kind.isTruthy then kind.toText else "unknown"
    s!"Date entry '{name}' has neither start nor end date"
  | .disposed => "Cannot schedule on a disposed debounce timer"
  | .noClock => "no running event loop"
  | .raised kind detail => if kind == "KeyError" then detail.shown else detail.toText

end Failure

end DatasetForm
