import LiveSession.Assoc
import LiveSession.Host

/-!
# Built-in names

A name that is not bound stands for a routine, a type, an error or a constant
of the language. Built-in names can be bound like any others, which hides what
they stand for. They are listed in the order in which they are suggested.
-/

namespace LiveSession.Script

/-- The names that are bound, in the order in which they were first bound. -/
abbrev Names := List (String × Host)

namespace Builtin

/-- A routine of the language. -/
def routine (name : String) : Entity where
  kind := .routine
  -- these two take nothing
  calling := if name = "globals" || name = "locals" then .bare else .withArguments
  typeName := "builtin_function_or_method"
  name := name
  shown := "<built-in function " ++ name ++ ">"

/-- A type of the language. -/
def type (name : String) : Entity where
  kind := .type
  -- only the common type of all values takes nothing
  calling := if name = "object" then .bare else .withArguments
  typeName := "type"
  name := name
  shown := "<class '" ++ name ++ "'>"

/-- The one value of a type. -/
def single (typeName shown : String) : Host :=
  .entity { kind := .thing true, typeName, shown }

/-- A value that says how to use it when it is shown. -/
def advice (typeName shown : String) : Entity where
  kind := .shell
  calling := .withArguments
  typeName := typeName
  shown := shown

/-- What leaves the environment when it is called. -/
def quitter (name : String) : Entity :=
  advice "Quitter" ("Use " ++ name ++ "() or Ctrl-D (i.e. EOF) to exit")

/-- The routine that writes its arguments. -/
def print : Entity := routine "print"

/-- The type of arithmetic progressions. -/
def range : Entity := type "range"

/-- The names of the routines. -/
def routineNames : List String :=
  ["__build_class__", "__import__", "abs", "all", "any", "ascii", "bin", "breakpoint",
    "callable", "chr", "compile", "delattr", "dir", "divmod", "eval", "exec", "format", "getattr",
    "globals", "hasattr", "hash", "hex", "id", "input", "isinstance", "issubclass", "iter",
    "aiter", "len", "locals", "max", "min", "next", "anext", "oct", "ord", "pow", "print", "repr",
    "round", "setattr", "sorted", "sum", "vars"]

/-- The names of the types that are no errors. -/
def typeNames : List String :=
  ["bool", "memoryview", "bytearray", "bytes", "classmethod", "complex", "dict", "enumerate",
    "filter", "float", "frozenset", "property", "int", "list", "map", "object", "range",
    "reversed", "set", "slice", "staticmethod", "str", "super", "tuple", "type", "zip"]

/-- The errors that pass through everything, the exit of the environment among
them. -/
def interruptionNames : List String :=
  ["BaseException", "BaseExceptionGroup", "GeneratorExit", "KeyboardInterrupt", "SystemExit"]

/-- The names of the errors. -/
def errorNames : List String :=
  ["BaseException", "BaseExceptionGroup", "Exception", "GeneratorExit", "KeyboardInterrupt",
    "SystemExit", "ArithmeticError", "AssertionError", "AttributeError", "BufferError",
    "EOFError", "ImportError", "LookupError", "MemoryError", "NameError", "OSError",
    "ReferenceError", "RuntimeError", "StopAsyncIteration", "StopIteration", "SyntaxError",
    "SystemError", "TypeError", "ValueError", "Warning", "FloatingPointError", "OverflowError",
    "ZeroDivisionError", "BytesWarning", "DeprecationWarning", "EncodingWarning", "FutureWarning",
    "ImportWarning", "PendingDeprecationWarning", "ResourceWarning", "RuntimeWarning",
    "SyntaxWarning", "UnicodeWarning", "UserWarning", "BlockingIOError", "ChildProcessError",
    "ConnectionError", "FileExistsError", "FileNotFoundError", "InterruptedError",
    "IsADirectoryError", "NotADirectoryError", "PermissionError", "ProcessLookupError",
    "TimeoutError", "IndentationError", "IndexError", "KeyError", "ModuleNotFoundError",
    "NotImplementedError", "RecursionError", "UnboundLocalError", "UnicodeError",
    "BrokenPipeError", "ConnectionAbortedError", "ConnectionRefusedError", "ConnectionResetError",
    "TabError", "UnicodeDecodeError", "UnicodeEncodeError", "UnicodeTranslateError",
    "ExceptionGroup"]

/-- The name of an entity with what it stands for. -/
def entry (make : String → Entity) (name : String) : String × Host :=
  (name, .entity (make name))

/-- What loads the built-in names. -/
def loader : Entity :=
  { type "_frozen_importlib.BuiltinImporter" with calling := .bare }

/-- The names of what leaves the environment. -/
def quitterNames : List String :=
  ["quit", "exit"]

/-- All built-in names with what they stand for. -/
def all : Names :=
  [("__package__", .string ""), ("__loader__", .entity loader),
    ("__spec__", single "ModuleSpec"
      ("ModuleSpec(name='builtins', loader=" ++ loader.shown ++ ", origin='built-in')"))] ++
  routineNames.map (entry routine) ++
  [("None", .null), ("Ellipsis", single "ellipsis" "Ellipsis"),
    ("NotImplemented", single "NotImplementedType" "NotImplemented"),
    ("False", .bool false), ("True", .bool true)] ++
  typeNames.map (entry type) ++ [("__debug__", .bool true)] ++ errorNames.map (entry type) ++
  [("EnvironmentError", .entity (type "OSError")), ("IOError", .entity (type "OSError")),
    entry routine "open"] ++ quitterNames.map (entry quitter) ++
  [("help", .entity (advice "_Helper"
    "Type help() for interactive help, or help(object) for help about object."))]

/-- The name under which all built-in names are bound. -/
def selfName : String := "__builtins__"

/-- What that name is bound to. -/
def self : Host :=
  .entity { kind := .thing false, typeName := "dict", shown := "<built-in names>" }

/-- The name of the error that a value is the type of. -/
def error? (h : Host) : Option String :=
  match h with
  | .entity o => if errorNames.contains o.name && o == type o.name then some o.name else none
  | _ => none

end Builtin

/-- What a name stands for: a binding comes before a built-in name. -/
def Names.resolve? (names : Names) (name : String) : Option Host :=
  (Assoc.find? (· == ·) name names).orElse fun _ => Assoc.find? (· == ·) name Builtin.all

end LiveSession.Script
