import LiveSession.Host

/-!
# Members of values

A value has the members of its type, such as the operations on a text or the
parts of a number. They are listed by name, with an opening parenthesis where
they can be called, and with both where they take nothing. Of the types that a
script cannot write down itself only the public members are listed.
-/

namespace LiveSession.Script.Member

/-- Members that all values have. -/
def shared : String :=
  "__delattr__( __doc__ __eq__( __format__( __ge__( __getattribute__( __gt__( __init__( " ++
  "__init_subclass__( __le__( __lt__( __ne__( __new__( __reduce_ex__( __setattr__( " ++
  "__subclasshook__( "

/-- Members of null. -/
def null : String :=
  shared ++
  "__bool__( __class__( __dir__( __getstate__( __hash__( __reduce__( __repr__( __sizeof__( " ++
  "__str__("

/-- Members of a whole number or a boolean. -/
def whole : String :=
  shared ++
  "__abs__() __add__( __and__( __bool__() __ceil__( __class__( __dir__() __divmod__( " ++
  "__float__() __floor__( __floordiv__( __getnewargs__() __getstate__() __hash__() " ++
  "__index__() __int__() __invert__() __lshift__( __mod__( __mul__( __neg__() __or__( " ++
  "__pos__() __pow__( __radd__( __rand__( __rdivmod__( __reduce__() __repr__() " ++
  "__rfloordiv__( __rlshift__( __rmod__( __rmul__( __ror__( __round__( __rpow__( " ++
  "__rrshift__( __rshift__( __rsub__( __rtruediv__( __rxor__( __sizeof__() __str__() " ++
  "__sub__( __truediv__( __trunc__( __xor__( as_integer_ratio() bit_count() bit_length() " ++
  "conjugate( denominator from_bytes( imag numerator real to_bytes("

/-- Members of a double. -/
def double : String :=
  shared ++
  "__abs__() __add__( __bool__() __ceil__() __class__( __dir__() __divmod__( __float__() " ++
  "__floor__() __floordiv__( __getformat__( __getnewargs__() __getstate__() __hash__() " ++
  "__int__() __mod__( __mul__( __neg__() __pos__() __pow__( __radd__( __rdivmod__( " ++
  "__reduce__() __repr__() __rfloordiv__( __rmod__( __rmul__( __round__( __rpow__( " ++
  "__rsub__( __rtruediv__( __sizeof__() __str__() __sub__( __truediv__( __trunc__() " ++
  "as_integer_ratio() conjugate() fromhex( hex() imag is_integer() real"

/-- Members of a text. -/
def text : String :=
  shared ++
  "__add__( __class__( __contains__( __dir__() __getitem__( __getnewargs__( __getstate__() " ++
  "__hash__() __iter__() __len__() __mod__( __mul__( __reduce__() __repr__() __rmod__( " ++
  "__rmul__( __sizeof__() __str__() capitalize() casefold() center( count( encode( " ++
  "endswith( expandtabs( find( format( format_map( index( isalnum() isalpha() isascii() " ++
  "isdecimal() isdigit() isidentifier() islower() isnumeric() isprintable() isspace() " ++
  "istitle() isupper() join( ljust( lower() lstrip( maketrans( partition( removeprefix( " ++
  "removesuffix( replace( rfind( rindex( rjust( rpartition( rsplit( rstrip( split( " ++
  "splitlines( startswith( strip( swapcase() title() translate( upper() zfill("

/-- Members of a list. -/
def list : String :=
  shared ++
  "__add__( __class__( __class_getitem__( __contains__( __delitem__( __dir__() " ++
  "__getitem__( __getstate__() __hash__ __iadd__( __imul__( __iter__() __len__() __mul__( " ++
  "__reduce__() __repr__() __reversed__() __rmul__( __setitem__( __sizeof__() __str__() " ++
  "append( clear() copy() count( extend( index( insert( pop( remove( reverse() sort("

/-- Members of an ordinary mapping. -/
def mapping : String :=
  shared ++
  "__class__( __class_getitem__( __contains__( __delitem__( __dir__() __getitem__( " ++
  "__getstate__() __hash__ __ior__( __iter__() __len__() __or__( __reduce__() __repr__() " ++
  "__reversed__() __ror__( __setitem__( __sizeof__( __str__() clear( copy( fromkeys( get( " ++
  "items( keys( pop( popitem() setdefault( update( values("

/-- Members of an object with attributes, beside these. -/
def object : String :=
  shared ++
  "__class__() __dict__ __dir__() __getstate__() __hash__() __module__ __reduce__() " ++
  "__repr__() __sizeof__() __str__() __weakref__"

/-- Public members of bytes. -/
def bytes : String :=
  "capitalize( center( count( decode( endswith( expandtabs( find( fromhex( hex( index( " ++
  "isalnum( isalpha( isascii( isdigit( islower( isspace( istitle( isupper( join( ljust( " ++
  "lower( lstrip( maketrans( partition( removeprefix( removesuffix( replace( rfind( " ++
  "rindex( rjust( rpartition( rsplit( rstrip( split( splitlines( startswith( strip( " ++
  "swapcase( title( translate( upper( zfill("

/-- Public members of bytes that can grow, beside those of bytes. -/
def growing : String :=
  " append( clear() copy() extend( insert( pop( remove( reverse()"

/-- Public members of a view of bytes. -/
def memory : String :=
  "c_contiguous cast( contiguous f_contiguous format hex( itemsize nbytes ndim obj " ++
  "readonly release() shape strides suboffsets tobytes( tolist() toreadonly()"

/-- Public members of a set that cannot change. -/
def frozenSet : String :=
  "copy( difference( intersection( isdisjoint( issubset( issuperset( symmetric_difference( " ++
  "union("

/-- Public members of a set, beside those. -/
def changing : String :=
  " add( clear( difference_update( discard( intersection_update( pop( remove( " ++
  "symmetric_difference_update( update("

/-- Public members of a list kept inside another object. -/
def wrappedList : String :=
  "append( clear() copy() count( data extend( index( insert( pop( remove( reverse() sort("

/-- Public members of a queue with two ends. -/
def deque : String :=
  "append( appendleft( clear( copy( count( extend( extendleft( index( insert( maxlen pop( " ++
  "popleft( remove( reverse( rotate("

/-- Public members of a run of machine integers. -/
def array : String :=
  "append( buffer_info() byteswap() count( extend( frombytes( fromfile( fromlist( " ++
  "fromunicode( index( insert( itemsize pop( remove( reverse() tobytes() tofile( tolist() " ++
  "tounicode() typecode"

/-- Public members of a mapping with an order of its own. -/
def orderedMapping : String :=
  "clear( copy( fromkeys( get( items( keys( move_to_end( pop( popitem( setdefault( update( " ++
  "values("

/-- Public members of a mapping kept inside another object. -/
def wrappedMapping : String :=
  "clear() copy() data fromkeys( get( items() keys() pop( popitem() setdefault( update( " ++
  "values()"

/-- Public members of a mapping of the user's own making. -/
def customMapping : String :=
  "get( items() keys() values()"

/-- Public members of a date. -/
def date : String :=
  "ctime( day fromisocalendar( fromisoformat( fromordinal( fromtimestamp( isocalendar( " ++
  "isoformat( isoweekday( max min month replace( resolution strftime( timetuple( today( " ++
  "toordinal( weekday( year"

/-- Public members of a time of day. -/
def time : String :=
  "dst( fold fromisoformat( hour isoformat( max microsecond min minute replace( resolution " ++
  "second strftime( tzinfo tzname( utcoffset("

/-- Public members of a date with a time of day. -/
def instant : String :=
  "astimezone( combine( ctime( date( day dst( fold fromisocalendar( fromisoformat( " ++
  "fromordinal( fromtimestamp( hour isocalendar( isoformat( isoweekday( max microsecond " ++
  "min minute month now( replace( resolution second strftime( strptime( time( timestamp( " ++
  "timetuple( timetz( today( toordinal( tzinfo tzname( utcfromtimestamp( utcnow( " ++
  "utcoffset( utctimetuple( weekday( year"

/-- Public members of a decimal. -/
def decimal : String :=
  "adjusted() as_integer_ratio() as_tuple() canonical() compare( compare_signal( " ++
  "compare_total( compare_total_mag( conjugate() copy_abs() copy_negate() copy_sign( exp( " ++
  "fma( from_float( imag is_canonical() is_finite() is_infinite() is_nan() is_normal( " ++
  "is_qnan() is_signed() is_snan() is_subnormal( is_zero() ln( log10( logb( logical_and( " ++
  "logical_invert( logical_or( logical_xor( max( max_mag( min( min_mag( next_minus( " ++
  "next_plus( next_toward( normalize( number_class( quantize( radix() real remainder_near( " ++
  "rotate( same_quantum( scaleb( shift( sqrt( to_eng_string( to_integral( " ++
  "to_integral_exact( to_integral_value("

/-- Public members of a ratio. -/
def fraction : String :=
  "as_integer_ratio() conjugate() denominator from_decimal( from_float( imag " ++
  "limit_denominator( numerator real"

/-- The list of members of a value's type, separated by blanks. -/
def listing : Host → String
  | .null => null
  | .bool _ => whole
  | .int _ => whole
  | .double _ => double
  | .decimal _ => decimal
  | .fraction _ => fraction
  | .complex _ _ => "conjugate() imag real"
  | .string _ => text
  | .moment (.date _) => date
  | .moment (.time _) => time
  | .moment (.instant _ _) => instant
  | .duration _ => "days max microseconds min resolution seconds total_seconds("
  | .binary .fixed _ => bytes
  | .binary .growable _ => bytes ++ growing
  | .binary .view _ => memory
  | .range _ _ _ => "count( index( start step stop"
  | .sequence .list _ => list
  | .sequence .tuple _ => "count( index("
  | .sequence .set _ => frozenSet ++ changing
  | .sequence .frozenSet _ => frozenSet
  | .sequence .wrapped _ => wrappedList
  | .sequence .deque _ => deque
  | .sequence .array _ => array
  | .mapping .plain _ => mapping
  | .mapping .ordered _ => orderedMapping
  | .mapping .view _ => "copy( get( items( keys( values("
  | .mapping .wrapped _ => wrappedMapping
  | .mapping .custom _ => customMapping
  | .record .object _ => object
  | .handle _ _ => "take("
  | .entity o =>
    match o.typeName with
    | "dict" => mapping
    | "partial" => "args func( keywords"
    | _ => ""
  | .cyclic .list => list
  | .cyclic .mapping => mapping
  | .cyclic .object => object
  | _ => ""

/-- The members of a value's type. -/
def ofType (h : Host) : List String :=
  ((listing h).splitOn " ").filter (!·.isEmpty)

end LiveSession.Script.Member
