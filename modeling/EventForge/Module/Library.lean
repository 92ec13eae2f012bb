import EventForge.Text.Quoted

/-!
# The library of modules

These modules can be found by their names.  A package holds further modules, whose names go on with
theirs.  None of them is an event module.
-/

namespace EventForge

namespace ModuleLibrary

/-- The modules that hold no others. -/
def plain : List Text := List.map Text.ofString [
  "__future__", "_abc", "_aix_support", "_ast", "_asyncio", "_bisect", "_blake2",
  "_bootsubprocess", "_bz2", "_codecs", "_codecs_cn", "_codecs_hk", "_codecs_iso2022",
  "_codecs_jp", "_codecs_kr", "_codecs_tw", "_collections", "_collections_abc", "_compat_pickle",
  "_compression", "_contextvars", "_crypt", "_csv", "_ctypes", "_curses", "_curses_panel",
  "_datetime", "_dbm", "_decimal", "_elementtree", "_frozen_importlib",
  "_frozen_importlib_external", "_functools", "_hashlib", "_heapq", "_imp", "_io", "_json",
  "_locale", "_lsprof", "_lzma", "_markupbase", "_md5", "_multibytecodec", "_multiprocessing",
  "_opcode", "_operator", "_osx_support", "_pickle", "_posixshmem", "_posixsubprocess", "_py_abc",
  "_pydecimal", "_pyio", "_queue", "_random", "_sha1", "_sha256", "_sha3", "_sha512", "_signal",
  "_sitebuiltins", "_socket", "_sqlite3", "_sre", "_ssl", "_stat", "_statistics", "_string",
  "_strptime", "_struct", "_symtable", "_thread", "_threading_local", "_tkinter", "_tokenize",
  "_tracemalloc", "_typing", "_uuid", "_warnings", "_weakref", "_weakrefset", "_zoneinfo", "abc",
  "aifc", "annotated_types", "argparse", "array", "ast", "asynchat", "asyncore", "atexit",
  "audioop", "base64", "bdb", "binascii", "bisect", "builtins", "bz2", "cProfile", "calendar",
  "cgi", "cgitb", "chunk", "cmath", "cmd", "code", "codecs", "codeop", "colorsys", "compileall",
  "configparser", "contextlib", "contextvars", "copy", "copyreg", "crypt", "csv", "dataclasses",
  "datetime", "decimal", "difflib", "dis", "distutils", "doctest", "enum", "errno",
  "faulthandler", "fcntl", "filecmp", "fileinput", "fnmatch", "fractions", "ftplib", "functools",
  "gc", "genericpath", "getopt", "getpass", "gettext", "glob", "graphlib", "grp", "gzip",
  "hashlib", "heapq", "hmac", "imaplib", "imghdr", "imp", "inspect", "io", "ipaddress",
  "itertools", "keyword", "linecache", "locale", "lzma", "mailbox", "mailcap", "marshal", "math",
  "mimetypes", "mmap", "modulefinder", "netrc", "nntplib", "ntpath", "nturl2path", "numbers",
  "opcode", "operator", "optparse", "os", "os.path", "ossaudiodev", "pathlib", "pdb", "pickle",
  "pickletools", "pipes", "pkgutil", "platform", "plistlib", "poplib", "posix", "posixpath",
  "pprint", "profile", "pstats", "pty", "pwd", "py_compile", "pyclbr", "pydoc", "pyexpat",
  "queue", "quopri", "random", "readline", "reprlib", "resource", "rlcompleter", "runpy", "sched",
  "secrets", "select", "selectors", "shelve", "shlex", "shutil", "signal", "site", "smtpd",
  "smtplib", "sndhdr", "socket", "socketserver", "spwd", "sre_compile", "sre_constants",
  "sre_parse", "ssl", "stat", "statistics", "string", "stringprep", "struct", "subprocess",
  "sunau", "symtable", "sys", "sysconfig", "syslog", "tabnanny", "tarfile", "telnetlib",
  "tempfile", "termios", "textwrap", "threading", "time", "timeit", "token", "tokenize", "trace",
  "traceback", "tracemalloc", "tty", "turtle", "types", "typing", "typing_extensions",
  "unicodedata", "uu", "uuid", "warnings", "wave", "weakref", "webbrowser", "xdrlib", "zipapp",
  "zipfile", "zipimport", "zlib"]

/-- The packages, each with the last names of the modules in it. -/
def packages : List (Text × List Text) :=
  let package (name : String) (members : List String) : Text × List Text :=
    (Text.ofString name, members.map Text.ofString)
  [
    package "asyncio" [
      "base_events", "base_futures", "base_subprocess", "base_tasks", "constants",
      "coroutines", "events", "exceptions", "format_helpers", "futures", "locks", "log",
      "mixins", "proactor_events", "protocols", "queues", "runners", "selector_events",
      "sslproto", "staggered", "streams", "subprocess", "taskgroups", "tasks", "threads",
      "timeouts", "transports", "trsock", "unix_events"],
    package "collections" ["abc"],
    package "concurrent" ["futures"],
    package "concurrent.futures" ["process", "thread"],
    package "ctypes" ["macholib", "util"],
    package "ctypes.macholib" ["dyld", "dylib", "framework"],
    package "curses" ["ascii", "has_key", "panel", "textpad"],
    package "dbload" ["eventgen"],
    package "dbload.eventgen" [
      "codegen", "config", "errors", "main", "runtime", "schema", "tools"],
    package "dbload.eventgen.codegen" [],
    package "dbload.eventgen.runtime" ["codec", "contract", "generators", "storage"],
    package "dbload.eventgen.schema" [],
    package "dbload.eventgen.tools" [],
    package "dbm" ["dumb", "gnu", "ndbm"],
    package "dotenv" [],
    package "email" [
      "base64mime", "charset", "contentmanager", "encoders", "errors", "feedparser",
      "generator", "header", "headerregistry", "iterators", "message", "mime", "parser",
      "policy", "quoprimime", "utils"],
    package "email.mime" [
      "application", "audio", "base", "image", "message", "multipart", "nonmultipart", "text"],
    package "encodings" ["aliases", "ascii", "idna", "latin_1", "utf_8"],
    package "ensurepip" [],
    package "html" ["entities", "parser"],
    package "http" ["client", "cookiejar", "cookies", "server"],
    package "importlib" ["abc", "machinery", "metadata", "readers", "resources", "simple", "util"],
    package "importlib.metadata" [],
    package "importlib.resources" ["abc", "readers", "simple"],
    package "json" ["decoder", "encoder", "scanner", "tool"],
    package "lib2to3" [],
    package "logging" ["config", "handlers"],
    package "multiprocessing" [
      "connection", "context", "dummy", "forkserver", "heap", "managers", "pool",
      "popen_fork", "popen_forkserver", "popen_spawn_posix", "process", "queues", "reduction",
      "resource_sharer", "resource_tracker", "shared_memory", "sharedctypes", "spawn",
      "synchronize", "util"],
    package "multiprocessing.dummy" ["connection"],
    package "pydantic" [],
    package "pydantic_core" [],
    package "pydantic_settings" [],
    package "pydoc_data" [],
    package "re" [],
    package "sqlite3" ["dbapi2", "dump"],
    package "tkinter" [
      "colorchooser", "commondialog", "constants", "dialog", "dnd", "filedialog", "font",
      "messagebox", "scrolledtext", "simpledialog", "tix", "ttk"],
    package "tomllib" [],
    package "unittest" [
      "async_case", "case", "loader", "main", "mock", "result", "runner", "signals", "suite",
      "util"],
    package "urllib" ["error", "parse", "request", "response", "robotparser"],
    package "venv" [],
    package "wsgiref" ["handlers", "headers", "simple_server", "types", "util", "validate"],
    package "xml" ["dom", "etree", "parsers", "sax"],
    package "xml.dom" [
      "NodeFilter", "domreg", "expatbuilder", "minicompat", "minidom", "pulldom", "xmlbuilder"],
    package "xml.etree" ["ElementInclude", "ElementPath", "ElementTree", "cElementTree"],
    package "xml.parsers" ["expat"],
    package "xml.sax" ["expatreader", "handler", "saxutils", "xmlreader"],
    package "xmlrpc" ["client", "server"],
    package "yaml" [],
    package "zoneinfo" []]

/-- Whether a module can be found by a name. -/
def holds (name : Text) : Bool :=
  plain.contains name || packages.any fun package =>
    package.1 == name || package.2.any fun member => package.1 ++ "." ++ member == name

/-- Whether a name is that of a package. -/
def isPackage (name : Text) : Bool := packages.any fun package => package.1 == name

/-- Why no module is found. -/
inductive Absence
  | missing (name : Text)
  /-- The name goes below a module that holds no others. -/
  | below (name above : Text)
deriving DecidableEq, Repr

def Absence.message : Absence → Text
  | .missing name => ("No module named " : Text) ++ Quoted.ofText name
  | .below name above =>
      ("No module named " : Text) ++ Quoted.ofText name ++ "; " ++ Quoted.ofText above ++
        " is not a package"

/-- Why a name that leads through the modules `above` names no module, if it names none. -/
def absenceBelow? (above : Text) : List Text → Option Absence
  | [] => none
  | part :: parts =>
      let name := if above.isEmpty then part else above ++ "." ++ part
      if holds name then absenceBelow? name parts
      else if above.isEmpty || isPackage above then some (.missing name)
      else some (.below name above)

/-- Why a dotted name names no module, if it names none. -/
def absence? (name : Text) : Option Absence := absenceBelow? [] (name.splitAt '.')

end ModuleLibrary

end EventForge
