import EventForge.Document.Basic

/-!
# Kinds of values that scripts know

A kind belongs to further kinds, all of them to the kind of all values.  Kinds of modules go by
their full names.
-/

namespace EventForge

namespace KnownKind

/-- Kinds of values that every script knows. -/
def common : List String := [
  "bool", "bytearray", "bytes", "classmethod", "complex", "dict", "enumerate", "filter", "float",
  "frozenset", "int", "list", "map", "memoryview", "object", "property", "range", "reversed",
  "set", "slice", "staticmethod", "str", "super", "tuple", "type", "zip"]

/-- Kinds each with the kind that it belongs to, unless that is the kind of all values. -/
def parents : List (String × String) :=
  let below (parent : String) (kinds : List String) : List (String × String) :=
    kinds.map fun kind => (kind, parent)
  below "BaseException" ["BaseExceptionGroup", "Exception", "GeneratorExit", "KeyboardInterrupt",
    "SystemExit", "asyncio.exceptions.CancelledError"] ++
  below "Exception" ["ArithmeticError", "AssertionError", "AttributeError", "BufferError",
    "EOFError", "ImportError", "LookupError", "MemoryError", "NameError",
    "OSError", "ReferenceError", "RuntimeError", "StopAsyncIteration", "StopIteration",
    "SyntaxError", "SystemError", "TypeError", "ValueError", "Warning", "sqlite3.Warning",
    "sqlite3.Error", "asyncio.queues.QueueEmpty", "asyncio.queues.QueueFull",
    "asyncio.exceptions.InvalidStateError", "copy.Error"] ++
  below "ArithmeticError" ["FloatingPointError", "OverflowError", "ZeroDivisionError"] ++
  below "ImportError" ["ModuleNotFoundError"] ++ below "LookupError" ["IndexError", "KeyError"] ++
  below "NameError" ["UnboundLocalError"] ++
  below "OSError" ["BlockingIOError", "ChildProcessError", "ConnectionError", "FileExistsError",
    "FileNotFoundError", "InterruptedError", "IsADirectoryError", "NotADirectoryError",
    "PermissionError", "ProcessLookupError", "TimeoutError"] ++
  below "ConnectionError" ["BrokenPipeError", "ConnectionAbortedError", "ConnectionRefusedError",
    "ConnectionResetError"] ++
  below "RuntimeError" ["NotImplementedError", "RecursionError"] ++
  below "SyntaxError" ["IndentationError"] ++ below "IndentationError" ["TabError"] ++
  below "ValueError" ["UnicodeError", "json.decoder.JSONDecodeError"] ++
  below "UnicodeError" ["UnicodeDecodeError", "UnicodeEncodeError", "UnicodeTranslateError"] ++
  below "Warning" ["BytesWarning", "DeprecationWarning", "EncodingWarning", "FutureWarning",
    "ImportWarning", "PendingDeprecationWarning", "ResourceWarning", "RuntimeWarning",
    "SyntaxWarning", "UnicodeWarning", "UserWarning"] ++
  below "sqlite3.Error" ["sqlite3.DatabaseError", "sqlite3.InterfaceError"] ++
  below "sqlite3.DatabaseError" ["sqlite3.DataError", "sqlite3.IntegrityError",
    "sqlite3.InternalError", "sqlite3.NotSupportedError", "sqlite3.OperationalError",
    "sqlite3.ProgrammingError"] ++
  below "AttributeError" ["dataclasses.FrozenInstanceError"] ++
  below "dict" ["collections.OrderedDict", "collections.defaultdict",
    "collections.Counter"] ++
  below "int" ["bool"] ++ below "type" ["abc.ABCMeta", "enum.EnumType"] ++ below "enum.Enum" ["enum.Flag"]

/-- Kinds that belong to several others. -/
def mixedOrders : List (String × List String) := [
  ("ExceptionGroup", ["ExceptionGroup", "BaseExceptionGroup", "Exception", "BaseException",
    "object"]),
  ("enum.IntEnum", ["enum.IntEnum", "int", "enum.Enum", "object"]),
  ("enum.StrEnum", ["enum.StrEnum", "str", "enum.Enum", "object"]),
  ("enum.IntFlag", ["enum.IntFlag", "int", "enum.Flag", "enum.Enum", "object"])]

/-- A kind with all kinds that it belongs to.  The fuel bounds their number. -/
def orderFrom : Nat → String → List String
  | 0, name => [name]
  | fuel + 1, name =>
      match parents.find? fun entry => entry.1 == name with
      | some entry => name :: orderFrom fuel entry.2
      | none => if name == "object" then [name] else [name, "object"]

/-- A kind with all kinds that it belongs to, itself first. -/
def order (name : String) : List String :=
  match mixedOrders.find? fun entry => entry.1 == name with
  | some entry => entry.2
  | none => orderFrom (parents.length + 1) name

/-- The kind that a kind itself is of. -/
def metaclass (name : String) : String :=
  if (order name).contains "enum.Enum" then "enum.EnumType"
  else if name == "abc.ABC" then "abc.ABCMeta"
  else "type"

/-- Whether a kind belongs to another one. -/
def isBelow (name other : String) : Bool := (order name).contains other

def isFault (name : String) : Bool := name == "BaseException" || isBelow name "BaseException"

/-- Other names of kinds that every script knows. -/
def aliases : List (String × String) :=
  [("EnvironmentError", "OSError"), ("IOError", "OSError")]

/-- The kind that every script knows under a name. -/
def ofName? (name : Text) : Option String :=
  let name := name.toString
  if common.contains name then some name
  else
    match aliases.find? fun entry => entry.1 == name with
    | some entry => some entry.2
    | none =>
        let isPlain := !name.toList.contains '.'
        if isPlain && isFault name && (name == "BaseException" || (order name).length > 1) then
          some name
        else none

/-- The last part of the full name of a kind. -/
def shortName (name : String) : String :=
  String.ofList (name.toList.reverse.takeWhile fun letter => letter != '.').reverse

/-- The module of a kind. -/
def moduleName (name : String) : String :=
  let reversed := (name.toList.reverse.dropWhile fun letter => letter != '.').drop 1
  if reversed.isEmpty then "builtins" else String.ofList reversed.reverse

/-- Kinds that go by their full names in messages. -/
def fullyNamed : List String := [
  "collections.OrderedDict", "collections.defaultdict", "collections.deque", "functools.partial",
  "itertools.chain", "itertools.count", "itertools.cycle", "itertools.islice", "itertools.repeat",
  "operator.attrgetter", "operator.itemgetter", "operator.methodcaller", "sqlite3.Connection",
  "sqlite3.Cursor", "sqlite3.Row"]

/-- A kind in a message. -/
def shownName (name : String) : Text :=
  Text.ofString (if fullyNamed.contains name then name else shortName name)

/-- The methods of bytes, whether they can change or not. -/
def methodsOfBytes : List String := [
  "capitalize", "center", "count", "decode", "endswith", "expandtabs", "find", "fromhex", "hex",
  "index", "isalnum", "isalpha", "isascii", "isdigit", "islower", "isspace", "istitle", "isupper",
  "join", "ljust", "lower", "lstrip", "maketrans", "partition", "removeprefix", "removesuffix",
  "replace", "rfind", "rindex", "rjust", "rpartition", "rsplit", "rstrip", "split", "splitlines",
  "startswith", "strip", "swapcase", "title", "translate", "upper", "zfill"]

/-- The attributes of values that are methods, by kinds. -/
def methods : List (String × List String) := [
  ("int", ["as_integer_ratio", "bit_count", "bit_length", "conjugate", "from_bytes", "to_bytes"]),
  ("float", ["as_integer_ratio", "conjugate", "fromhex", "hex", "is_integer"]),
  ("str", ["capitalize", "casefold", "center", "count", "encode", "endswith", "expandtabs", "find",
    "format", "format_map", "index", "isalnum", "isalpha", "isascii", "isdecimal", "isdigit",
    "isidentifier", "islower", "isnumeric", "isprintable", "isspace", "istitle", "isupper", "join",
    "ljust", "lower", "lstrip", "maketrans", "partition", "removeprefix", "removesuffix",
    "replace", "rfind", "rindex", "rjust", "rpartition", "rsplit", "rstrip", "split",
    "splitlines", "startswith", "strip", "swapcase", "title", "translate", "upper", "zfill"]),
  ("bytes", methodsOfBytes),
  ("bytearray", ["append", "clear", "copy", "extend", "insert", "pop", "remove", "reverse"] ++
    methodsOfBytes),
  ("list", ["append", "clear", "copy", "count", "extend", "index", "insert", "pop", "remove",
    "reverse", "sort"]),
  ("tuple", ["count", "index"]),
  ("range", ["count", "index"]),
  ("slice", ["indices"]),
  ("set", ["add", "clear", "copy", "difference", "difference_update", "discard", "intersection",
    "intersection_update", "isdisjoint", "issubset", "issuperset", "pop", "remove",
    "symmetric_difference", "symmetric_difference_update", "union", "update"]),
  ("frozenset", ["copy", "difference", "intersection", "isdisjoint", "issubset", "issuperset",
    "symmetric_difference", "union"]),
  ("dict", ["clear", "copy", "fromkeys", "get", "items", "keys", "pop", "popitem", "setdefault",
    "update", "values"]),
  ("dict_keys", ["isdisjoint"]), ("dict_items", ["isdisjoint"]),
  ("collections.OrderedDict", ["move_to_end"]),
  ("collections.Counter", ["elements", "most_common", "subtract", "total"]),
  ("collections.deque", ["append", "appendleft", "clear", "copy", "count", "extend", "extendleft",
    "index", "insert", "pop", "popleft", "remove", "reverse", "rotate"]),
  ("generator", ["__iter__", "__next__", "close", "send", "throw"]),
  ("coroutine", ["close", "send", "throw"]),
  ("async_generator", ["aclose", "asend", "athrow"]),
  ("property", ["deleter", "getter", "setter"]),
  ("BaseException", ["add_note", "with_traceback"]),
  ("BaseExceptionGroup", ["derive", "split", "subgroup"]),
  ("random.Random", ["betavariate", "choice", "choices", "expovariate", "gauss", "getrandbits",
    "getstate", "lognormvariate", "normalvariate", "paretovariate", "randbytes", "randint",
    "random", "randrange", "sample", "seed", "setstate", "shuffle", "triangular", "uniform",
    "weibullvariate"]),
  ("sqlite3.Connection", ["__enter__", "__exit__", "close", "commit", "create_function", "cursor",
    "execute", "executemany", "executescript", "rollback", "interrupt", "iterdump"]),
  ("sqlite3.Cursor", ["close", "execute", "executemany", "executescript", "fetchall", "fetchmany",
    "fetchone"]),
  ("sqlite3.Row", ["keys"]),
  ("_io.TextIOWrapper", ["__enter__", "__exit__", "__iter__", "__next__", "close", "flush", "read",
    "readline", "readlines", "write"]),
  ("sys.stdout", ["flush", "isatty", "write"]), ("sys.stderr", ["flush", "isatty", "write"]),
  ("sys.stdin", ["read", "readline", "readlines"]),
  ("type", ["mro"])]

/-- Attributes of every value that are functions of its kind. -/
def commonMethods : List String := [
  "__init__", "__new__", "__repr__", "__str__", "__eq__", "__ne__", "__lt__", "__le__", "__gt__",
  "__ge__", "__hash__", "__format__", "__getattribute__", "__setattr__", "__delattr__", "__dir__",
  "__sizeof__", "__reduce__", "__reduce_ex__", "__init_subclass__", "__subclasshook__"]

/-- Attributes of collections and numbers that are functions of their kinds. -/
def specialMethods : List (String × List String) :=
  let numbers := ["__add__", "__radd__", "__sub__", "__rsub__", "__mul__", "__rmul__",
    "__truediv__", "__rtruediv__", "__floordiv__", "__rfloordiv__", "__mod__", "__rmod__",
    "__pow__", "__rpow__", "__neg__", "__pos__", "__abs__", "__bool__", "__int__", "__float__",
    "__divmod__", "__rdivmod__", "__round__", "__trunc__"]
  let bits := ["__and__", "__rand__", "__or__", "__ror__", "__xor__", "__rxor__", "__lshift__",
    "__rlshift__", "__rshift__", "__rrshift__", "__invert__", "__index__", "__ceil__",
    "__floor__"]
  let sequences := ["__len__", "__getitem__", "__contains__", "__iter__", "__add__", "__mul__",
    "__rmul__"]
  let changes := ["__setitem__", "__delitem__", "__iadd__", "__imul__", "__reversed__"]
  let sets := ["__len__", "__contains__", "__iter__", "__and__", "__or__", "__sub__", "__xor__"]
  [("int", numbers ++ bits), ("float", numbers), ("str", sequences ++ ["__mod__", "__rmod__"]),
    ("bytes", sequences), ("tuple", sequences), ("list", sequences ++ changes),
    ("range", ["__len__", "__getitem__", "__contains__", "__iter__", "__reversed__"]),
    ("dict", ["__len__", "__getitem__", "__contains__", "__iter__", "__setitem__",
      "__delitem__", "__or__", "__ior__", "__reversed__"]),
    ("set", sets ++ ["__iand__", "__ior__", "__isub__", "__ixor__"]), ("frozenset", sets),
    ("collections.deque", sequences ++ changes),
    ("sqlite3.Row", ["__len__", "__getitem__", "__iter__"]),
    ("type", ["__call__"])]

/-- Methods that take the kind in place of a value of it. -/
def isClassMethod (name : String) : Bool :=
  ["fromkeys", "from_bytes", "fromhex", "__init_subclass__", "__subclasshook__"].contains name

/-- Methods that take no value of their kind. -/
def isFreeMethod (name : String) : Bool := ["maketrans", "__new__"].contains name

/-- Whether a kind itself has a method of a name. -/
def hasOwnMethod (kind name : String) : Bool :=
  (kind == "object" && commonMethods.contains name) ||
    (methods ++ specialMethods).any fun entry => entry.1 == kind && entry.2.contains name

end KnownKind

end EventForge
