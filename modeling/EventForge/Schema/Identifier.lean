import EventForge.Text.Case
import EventForge.Text.Basic

/-!
# Identifiers

Declared names become table and column names as they are, class names in camel case and attribute
names in snake case.  A name is usable if it is an ASCII identifier that the database does not
reserve.
-/

namespace EventForge

namespace Identifier

/-- Words that the database reserves or gives a meaning of their own, in small letters. -/
def databaseWords : List Text := List.map Text.ofString [
  "abort", "action", "add", "after", "all", "alter", "always", "analyze", "and",
  "as", "asc", "attach", "autoincrement", "before", "begin", "between", "by",
  "cascade", "case", "cast", "check", "collate", "column", "commit", "conflict",
  "constraint", "create", "cross", "current", "current_date", "current_time",
  "current_timestamp", "database", "default", "deferrable", "deferred", "delete",
  "desc", "detach", "distinct", "do", "drop", "each", "else", "end", "escape",
  "except", "exclude", "exclusive", "exists", "explain", "fail", "filter", "first",
  "following", "for", "foreign", "from", "full", "generated", "glob", "group",
  "groups", "having", "if", "ignore", "immediate", "in", "index", "indexed",
  "initially", "inner", "insert", "instead", "intersect", "into", "is", "isnull",
  "join", "key", "last", "left", "like", "limit", "match", "materialized",
  "natural", "no", "not", "nothing", "notnull", "null", "nulls", "of", "offset",
  "on", "or", "order", "others", "outer", "over", "partition", "plan", "pragma",
  "preceding", "primary", "query", "raise", "range", "recursive", "references",
  "regexp", "reindex", "release", "rename", "replace", "restrict", "returning",
  "right", "rollback", "row", "rows", "savepoint", "select", "set",
  "table", "temp", "temporary", "then", "ties", "to", "transaction", "trigger",
  "unbounded", "union", "unique", "update", "using", "vacuum", "values", "view",
  "virtual", "when", "where", "window", "with", "without"]

/-- Words that a module reserves. -/
def moduleWords : List Text := List.map Text.ofString [
  "False", "None", "True", "and", "as", "assert", "async", "await", "break", "class", "continue",
  "def", "del", "elif", "else", "except", "finally", "for", "from", "global", "if", "import", "in",
  "is", "lambda", "nonlocal", "not", "or", "pass", "raise", "return", "try", "while", "with",
  "yield"]

/-- Attribute names that every event class uses itself. -/
def eventAttributes : List Text :=
  ["store", "retrieve", "table_name", "new_random", "to_dict", "values"]

def isFirst (point : CodePoint) : Bool := point.isAsciiLetter || point = '_'

def isLater (point : CodePoint) : Bool := point.isAsciiAlphanumeric || point = '_'

/-- ASCII letters, digits and underscores that do not begin with a digit.  One line end may follow.
-/
def isIdentifierText : Text → Bool
  | [] => false
  | first :: rest =>
      isFirst first &&
        let rest :=
          if rest.getLast? = some CodePoint.lineFeed then rest.dropLast else rest
        rest.all isLater

/-- Whether a name can stand in a statement without quotes.  The database keeps names that begin
with `sqlite_` for itself. -/
def isUsable (name : Text) : Bool :=
  isIdentifierText name && !databaseWords.contains name.toAsciiLower &&
    !name.toAsciiLower.startsWith "sqlite_"

/-- A word with its first code point in capitals. -/
def capitalize : Text → Text
  | [] => []
  | first :: rest => first.toUpper ++ rest

/-- A name in camel case: the parts between underscores, capitalized.  An underscore stands in front
of an empty result and of a digit. -/
def camelCase (name : Text) : Text :=
  let parts := (name.splitAt '_').filter fun part => !part.isEmpty
  let joined := (parts.map capitalize).flatten
  match joined with
  | [] => "_"
  | first :: _ => if first.isDigit then ("_" : Text) ++ joined else joined

/-- Whether a text begins with a small ASCII letter. -/
def beginsSmall : Text → Bool
  | [] => false
  | point :: _ => point.isAsciiLower

/-- Puts an underscore in front of every capital that small letters follow, unless it begins the
text, a line, or stands directly behind another such word.  While `inWord`, small letters belong to
the word before. -/
def markWords (inWord : Bool) : Text → Text
  | [] => []
  | [point] => [point]
  | point :: next :: rest =>
      if inWord && point.isAsciiLower then point :: markWords true (next :: rest)
      else if point ≠ CodePoint.lineFeed && next.isAsciiUpper && beginsSmall rest then
        point :: (0x5F : CodePoint) :: next :: markWords true rest
      else point :: markWords false (next :: rest)

/-- Puts an underscore between a small letter or digit and a capital behind it. -/
def markCapitals : Text → Text
  | [] => []
  | [point] => [point]
  | point :: next :: rest =>
      if (point.isAsciiLower || point.isAsciiDigit) && next.isAsciiUpper then
        point :: (0x5F : CodePoint) :: markCapitals (next :: rest)
      else point :: markCapitals (next :: rest)

/-- Every run of underscores becomes a single one. -/
def mergeUnderscores : Text → Text
  | [] => []
  | [point] => [point]
  | point :: next :: rest =>
      if point.val = 0x5F && next.val = 0x5F then mergeUnderscores (next :: rest)
      else point :: mergeUnderscores (next :: rest)

/-- A name in snake case. -/
def snakeCase (name : Text) : Text :=
  mergeUnderscores (markCapitals (markWords false name)).lower

/-- The attribute for a declared field.  Reserved words and the attributes of every event class get
an underscore behind them. -/
def attributeName (name : Text) : Text :=
  let base := snakeCase name
  if moduleWords.contains base || eventAttributes.contains base then base ++ ("_" : Text)
  else base

end Identifier

end EventForge
