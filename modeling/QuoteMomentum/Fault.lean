import QuoteMomentum.Value.Text
import QuoteMomentum.Text.Encoding

/-!
# Faults

Every way the dashboard's computations can fail, as causes. A cause carries
what its message needs, `Fault.message` words it, and `Fault.family` sorts it
into the families that callers catch: the monitor turns feed and shape faults
of one symbol into an error row, and the command line reports the faults of
loading its settings (bad values, unreadable documents, and files it cannot
open, read or decode) as configuration errors. The messages are part of the
output and stay exactly as shown.
-/

namespace QuoteMomentum

/-- Why a chart result could not be read, in the order the checks run. -/
inductive ShapeFault where
  | notObject
  | noIndicators
  | noQuote
  | quoteNotObject
  | closeNotList
  | noNumericClose
  | noPreviousClose
  deriving Repr, DecidableEq

/-- The reason a shape fault gives. -/
def ShapeFault.reason : ShapeFault → String
  | notObject => "chart result is not an object"
  | noIndicators => "missing indicators"
  | noQuote => "missing indicators.quote"
  | quoteNotObject => "indicators.quote[0] is not an object"
  | closeNotList => "close is not an array"
  | noNumericClose => "no numeric closes"
  | noPreviousClose => "insufficient history"

/-- Why a request to the chart endpoint failed. -/
inductive FeedFault where
  /-- The stop event kept the request from being sent. -/
  | cancelled
  /-- The transport raised, with its message. -/
  | transport (detail : String)
  /-- An error status without an error description from the feed. -/
  | httpStatus (code : Int)
  /-- The body of a successful answer is no document. -/
  | undecodable (detail : String)
  /-- The feed answered with an error of its own. -/
  | rejected (description : String) (code : Option String) (status : Option Int)
  deriving Repr

/-- The message of a feed fault. -/
def FeedFault.message : FeedFault → String
  | cancelled => "Request cancelled"
  | transport d => "Request failed: " ++ d
  | httpStatus c => "HTTP " ++ toString c ++ " from chart endpoint"
  | undecodable d => "Invalid JSON from chart endpoint: " ++ d
  | rejected d _ _ => d

/-- The status code a feed fault carries, if any. -/
def FeedFault.status : FeedFault → Option Int
  | httpStatus c => some c
  | rejected _ _ s => s
  | _ => none

/-- Why the settings are refused, in the order the checks run. -/
inductive SettingFault where
  | periodsNotPositive
  | fastNotBelowSlow
  | saturationNotPositive
  | negativeMaxPoints
  | unknownMode (mode : Value)
  | noSymbols
  | refreshTooShort
  | noWorkers
  | unknownLevel (level : Value)
  | unknownFormat (format : Value)
  | bufferTooShort (least : Value)
  deriving Inhabited

/-- The message of a refused setting. -/
def SettingFault.message : SettingFault → String
  | periodsNotPositive => "Indicator periods must be positive"
  | fastNotBelowSlow => "Fast period must be less than slow period"
  | saturationNotPositive => "cross_saturation_pct must be positive"
  | negativeMaxPoints => "session_max_points must be >= 0"
  | unknownMode m => "history_mode must be one of ('chart', 'session'), got " ++ m.literal
  | noSymbols => "At least one symbol is required"
  | refreshTooShort => "refresh_interval_seconds must be >= 1"
  | noWorkers => "fetch_workers must be >= 1"
  | unknownLevel l => "Unknown logging level " ++ l.literal
  | unknownFormat f => "logging format must be one of ('json', 'text'), got " ++ f.literal
  | bufferTooShort n => "session_max_points must be 0 or at least " ++ n.display

/-- Why a text is no timestamp. -/
inductive StampFault where
  /-- The text does not have the shape of a timestamp. -/
  | notIso (text : String)
  | yearRange (year : Int)
  | monthRange
  | dayRange
  | hourRange
  | minuteRange
  | secondRange
  /-- An offset from UTC of a day or more, in microseconds. -/
  | offsetRange (micros : Int)

/-- The message of a timestamp fault. -/
def StampFault.message : StampFault → String
  | notIso t => "Invalid isoformat string: " ++ Text.quoted t
  | yearRange y => "year " ++ toString y ++ " is out of range"
  | monthRange => "month must be in 1..12"
  | dayRange => "day is out of range for month"
  | hourRange => "hour must be in 0..23"
  | minuteRange => "minute must be in 0..59"
  | secondRange => "second must be in 0..59"
  | offsetRange m =>
    "offset must be a timedelta strictly between -timedelta(hours=24) and " ++
      "timedelta(hours=24), not " ++ Stamp.spanLiteral m ++ "."

/-- A failure of a computation of the dashboard. -/
inductive Fault where
  /-- An indicator period that is not a whole number; booleans are refused too. -/
  | periodNotWhole (period : Value)
  | periodsNotPositive
  | fastNotBelowSlow
  /-- Two values that stand in no order, for the relation written `rel`. -/
  | unordered (rel : String) (lhs rhs : String)
  /-- An arithmetic operation on values it does not apply to. -/
  | unsupportedOperands (op : String) (lhs rhs : String)
  /-- A whole number too large for a double. -/
  | intTooLarge
  | divisionByZero
  | nanToWhole
  | infinityToWhole
  | shape (f : ShapeFault)
  | feed (f : FeedFault)
  /-- A rate limit of no calls or no burst. -/
  | rateNotPositive
  /-- A session buffer of negative length. -/
  | negativeBuffer
  /-- A buffer length that is no whole number, used to cut a buffer. -/
  | fractionalCut
  | setting (f : SettingFault)
  /-- A text that is no whole number where one was read. -/
  | notWholeText (text : String)
  /-- The read-only field of a settings section was written. -/
  | readOnlyField (field part : String)
  /-- A value lacks the operation asked of it. -/
  | noAttribute (typeName attr : String)
  /-- A field name that is no text. -/
  | fieldNameNotText (typeName : String)
  /-- The configuration file is no document. -/
  | unreadable
  /-- A log level that names no level. -/
  | noLevel (name : String)
  /-- A value that cannot be walked item by item. -/
  | notIterable (typeName : String)
  /-- A value that has no length. -/
  | noLength (typeName : String)
  /-- An item of a list joined into text that is no text. -/
  | joinItem (index : Nat) (typeName : String)
  /-- A value that cannot be aligned in a column. -/
  | noFormat (typeName : String)
  /-- A value that cannot be shown as a whole number. -/
  | formatCode (code : String) (typeName : String)
  /-- A symbol that is no text where a path segment is built from it. -/
  | segmentNotText
  /-- A whole number in a document with more digits than are read. -/
  | tooManyDigits (digits : Nat)
  /-- A text that spells no double where one was read. -/
  | notDoubleText (text : String)
  /-- A byte string that spells no double where one was read. -/
  | notDoubleBytes (data : List UInt8)
  /-- A value that is neither a number nor a text where a double was read. -/
  | notReal (typeName : String)
  /-- A value that cannot key a table. -/
  | unhashable (typeName : String)
  | stamp (f : StampFault)
  /-- A negative number of decimals in a number format. -/
  | missingPrecision
  /-- A call that names a parameter it already gives by position. -/
  | duplicateArgument (function arg : String)
  /-- A call that gives a keyword twice. -/
  | duplicateKeyword (function arg : String)
  /-- A level name that names a text of the logging module. -/
  | levelText (text : String)
  /-- A level name that names the table of format styles. -/
  | levelStyles
  /-- An escape in a document that names no character. -/
  | codePointRange
  /-- A text that is no whole number in a base other than ten. -/
  | notWholeInBase (base : Nat) (text : String)
  /-- Items joined into a text from a value that holds no items. -/
  | joinNeedsItems
  /-- A configuration path that names a directory. -/
  | isDirectory (path : String)
  /-- A file the system does not let the program read: the number and the
  text of the system's error, and the path. -/
  | os (errno : Nat) (reason : String) (path : String)
  /-- A text file whose bytes are no UTF-8. -/
  | undecodableFile (e : Text.DecodeError)
  /-- The first character of an empty text. -/
  | noCharacter
  /-- A key that a table lacks. -/
  | missingKey (key : Value)
  /-- A pattern matched against a value that is no text. -/
  | notTextLike (typeName : String)
  /-- The attribute table of a settings section replaced by a value that is
  no mapping. -/
  | dictRequired (typeName : String)
  /-- The class of a settings section replaced by a value that is no class. -/
  | classRequired (typeName : String)
  /-- An attribute of a settings section that no value may replace. -/
  | notWritable (attr part : String)
  /-- A computation nested deeper than the interpreter's limit; `detail`
  says where. -/
  | recursion (detail : String)
  /-- A text holding lone surrogates from `start` up to `stop`, the first of
  them `code`, where UTF-8 bytes are made of it. -/
  | surrogate (code start stop : Nat)
  /-- A wait too long for the clock of a timed wait, which counts in
  nanoseconds below `2 ^ 63`. -/
  | waitTooLong
  /-- A sleep for a time that is no number. -/
  | waitNaN
  /-- A whole number with more digits than are written out. -/
  | tooManyDigitsToWrite
  /-- A text given where a method of a byte string needs bytes. -/
  | bytesLikeRequired (typeName : String)
  deriving Inhabited

/-- The families of faults, as callers catch them. -/
inductive Family where
  | badValue
  | badType
  | noAttribute
  | overflow
  | divisionByZero
  | shape
  | feed
  | chart
  | unreadable
  | isDirectory
  | os
  | decoding
  | index
  | key
  | recursion
  | encoding
  deriving Repr, DecidableEq

namespace Fault

/-- The family of a fault. -/
def family : Fault → Family
  | periodNotWhole _ | periodsNotPositive | fastNotBelowSlow | nanToWhole
  | rateNotPositive | negativeBuffer | setting _ | notWholeText _ | formatCode _ _
  | tooManyDigits _ | notDoubleText _ | notDoubleBytes _ | stamp _ | missingPrecision | levelText _
  | codePointRange | notWholeInBase _ _ | tooManyDigitsToWrite | waitNaN => .badValue
  | unordered _ _ _ | unsupportedOperands _ _ _ | fractionalCut | fieldNameNotText _
  | notIterable _ | noLength _ | joinItem _ _ | noFormat _ | segmentNotText | notReal _
  | unhashable _ | duplicateArgument _ _ | duplicateKeyword _ _ | levelStyles
  | joinNeedsItems | notTextLike _ | dictRequired _ | classRequired _
  | bytesLikeRequired _ => .badType
  | readOnlyField _ _ | noAttribute _ _ | noLevel _ | notWritable _ _ => .noAttribute
  | intTooLarge | infinityToWhole | waitTooLong => .overflow
  | divisionByZero => .divisionByZero
  | shape _ => .shape
  | feed (.rejected _ _ _) => .chart
  | feed _ => .feed
  | unreadable => .unreadable
  | isDirectory _ => .isDirectory
  | os _ _ _ => .os
  | undecodableFile _ => .decoding
  | noCharacter => .index
  | missingKey _ => .key
  | recursion _ => .recursion
  | surrogate _ _ _ => .encoding

/-- The message of a fault. -/
def message : Fault → String
  | periodNotWhole p => "EMA period must be an integer, got " ++ p.literal
  | periodsNotPositive => "MACD periods must be positive"
  | fastNotBelowSlow => "Fast period must be less than slow period"
  | unordered r a b => "'" ++ r ++ "' not supported between instances of '" ++ a ++ "' and '" ++ b ++ "'"
  | unsupportedOperands o a b =>
    "unsupported operand type(s) for " ++ o ++ ": '" ++ a ++ "' and '" ++ b ++ "'"
  | intTooLarge => "int too large to convert to float"
  | divisionByZero => "float division by zero"
  | nanToWhole => "cannot convert float NaN to integer"
  | infinityToWhole => "cannot convert float infinity to integer"
  | shape f => f.reason
  | feed f => f.message
  | rateNotPositive => "calls_per_minute and burst_limit must be positive"
  | negativeBuffer => "max_points must be >= 0"
  | fractionalCut => "slice indices must be integers or None or have an __index__ method"
  | setting f => f.message
  | notWholeText t =>
    "invalid literal for int() with base 10: " ++ String.ofList ((Text.quoted t).toList.take 200)
  | readOnlyField f s => "property '" ++ f ++ "' of '" ++ s ++ "' object has no setter"
  | noAttribute t a => "'" ++ t ++ "' object has no attribute '" ++ a ++ "'"
  | fieldNameNotText t => "attribute name must be string, not '" ++ t ++ "'"
  | unreadable => ""
  | noLevel n => "module 'logging' has no attribute '" ++ n ++ "'"
  | notIterable t => "'" ++ t ++ "' object is not iterable"
  | noLength t => "object of type '" ++ t ++ "' has no len()"
  | joinItem i t => "sequence item " ++ toString i ++ ": expected str instance, " ++ t ++ " found"
  | noFormat t => "unsupported format string passed to " ++ t ++ ".__format__"
  | formatCode c t => "Unknown format code '" ++ c ++ "' for object of type '" ++ t ++ "'"
  | segmentNotText => "quote_from_bytes() expected bytes"
  | tooManyDigits n =>
    "Exceeds the limit (4300 digits) for integer string conversion: value has " ++ toString n ++
      " digits; use sys.set_int_max_str_digits() to increase the limit"
  | notDoubleText t => "could not convert string to float: " ++ Text.quoted t
  | notDoubleBytes bs => "could not convert string to float: " ++ Text.quotedBytes bs
  | notReal t => "float() argument must be a string or a real number, not '" ++ t ++ "'"
  | unhashable t => "unhashable type: '" ++ t ++ "'"
  | stamp f => f.message
  | missingPrecision => "Format specifier missing precision"
  | duplicateArgument f a => f ++ "() got multiple values for argument '" ++ a ++ "'"
  | duplicateKeyword f a => f ++ "() got multiple values for keyword argument '" ++ a ++ "'"
  | levelText t => "Unknown level: " ++ Text.quoted t
  | codePointRange => "chr() arg not in range(0x110000)"
  | joinNeedsItems => "can only join an iterable"
  | isDirectory p => "[Errno 21] Is a directory: " ++ Text.quoted p
  | os n r p => "[Errno " ++ toString n ++ "] " ++ r ++ ": " ++ Text.quoted p
  | undecodableFile e => e.message
  | notWholeInBase b t =>
    "invalid literal for int() with base " ++ toString b ++ ": " ++
      String.ofList ((Text.quoted t).toList.take 200)
  | noCharacter => "string index out of range"
  | missingKey k => k.literal
  | notTextLike t => "expected string or bytes-like object, got '" ++ t ++ "'"
  | dictRequired t => "__dict__ must be set to a dictionary, not a '" ++ t ++ "'"
  | classRequired t => "__class__ must be set to a class, not '" ++ t ++ "' object"
  | notWritable a p => "attribute '" ++ a ++ "' of '" ++ p ++ "' objects is not writable"
  | recursion d => "maximum recursion depth exceeded" ++ d
  | surrogate c a b =>
    if b == a + 1 then
      "'utf-8' codec can't encode character '\\u" ++ Text.hexPadded 4 c ++ "' in position " ++
        toString a ++ ": surrogates not allowed"
    else
      "'utf-8' codec can't encode characters in position " ++ toString a ++ "-" ++
        toString (b - 1) ++ ": surrogates not allowed"
  | waitTooLong => "timestamp too large to convert to C _PyTime_t"
  | waitNaN => "Invalid value NaN (not a number)"
  | tooManyDigitsToWrite =>
    "Exceeds the limit (4300 digits) for integer string conversion; " ++
      "use sys.set_int_max_str_digits() to increase the limit"
  | bytesLikeRequired t => "a bytes-like object is required, not '" ++ t ++ "'"
  | levelStyles =>
    "Level not an integer or a valid string: \x7b'%': (<class 'logging.PercentStyle'>, " ++
      "'%(levelname)s:%(name)s:%(message)s'), '\x7b': (<class 'logging.StrFormatStyle'>, " ++
      "'\x7blevelname\x7d:\x7bname\x7d:\x7bmessage\x7d'), '$': " ++
      "(<class 'logging.StringTemplateStyle'>, '$\x7blevelname\x7d:$\x7bname\x7d:$\x7bmessage\x7d')\x7d"

/-- Whether the fault is of the bad-value family, shape faults included. -/
def isBadValue (f : Fault) : Bool :=
  f.family == .badValue || f.family == .shape

end Fault

end QuoteMomentum
