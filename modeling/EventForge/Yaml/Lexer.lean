import EventForge.Yaml.Token

/-!
# From text to YAML tokens

The lexer keeps the indentation of the open blocks and, for every depth of brackets, the place where
a key without a mark of its own may have begun.  A colon behind such a place turns it into a key:
the mark for it is put in front of the tokens that are already there.  A key of this kind stays on
one line and has at most 1024 code points.

Tokens are read on demand.  A token that may begin a key is handed out only when it is known whether
it does, so the text is read ahead as far as that takes and no further.
-/

namespace EventForge

namespace Yaml

/-- A place where a key may have begun. -/
structure KeyPlace where
  /-- The number of tokens in front of it. -/
  position : Nat
  /-- Whether nothing but a key can stand there. -/
  required : Bool
  index : Nat
  line : Nat
  column : Nat

/-- The state between two tokens. -/
structure Lexer where
  cursor : Cursor
  /-- How many brackets are open; negative behind brackets that close nothing. -/
  depth : Int
  /-- The column of the innermost open block, or -1. -/
  indent : Int
  /-- The columns of the blocks around it. -/
  outer : List Int
  /-- Whether a key may begin at the cursor. -/
  keyAllowed : Bool
  /-- The possible keys by depth. -/
  keys : List (Int × KeyPlace)
  /-- All tokens that were read. -/
  tokens : Array Token
  /-- How many of them were handed out. -/
  taken : Nat
  /-- Whether the end of the text was read. -/
  finished : Bool
  /-- How many more tokens may be read; never less than there are. -/
  budget : Nat

namespace Lexer

/-- The state in front of a text.  A byte order mark at its front is no part of it. -/
def start (text : Text) : Lexer :=
  let cursor := Cursor.start text
  { cursor := if cursor.at? 0xFEFF then cursor.next else cursor
    depth := 0, indent := -1, outer := [], keyAllowed := true, keys := [], tokens := #[], taken := 0
    finished := false, budget := 2 * text.length + 2 }

def push (lexer : Lexer) (token : Token) : Lexer :=
  { lexer with tokens := lexer.tokens.push token }

/-- Puts a token at a position among those already there. -/
def insertAt (lexer : Lexer) (position : Nat) (token : Token) : Lexer :=
  { lexer with tokens := lexer.tokens.insertIdxIfInBounds position token }

/-- Skips blanks, comments and line ends.  Outside brackets a key may begin on a new line. -/
def skipBlanks : Nat → Lexer → Lexer
  | 0, lexer => lexer
  | fuel + 1, lexer =>
      let cursor := (lexer.cursor.skipWhile isSpace).skipComment
      match cursor.lineBreak? with
      | none => { lexer with cursor }
      | some (_, cursor) =>
          skipBlanks fuel
            { lexer with cursor, keyAllowed := lexer.keyAllowed || lexer.depth == 0 }

/-- Forgets the possible keys that are too far back. -/
def dropStaleKeys (lexer : Lexer) : Except YamlFault Lexer :=
  let stale (place : KeyPlace) : Bool :=
    place.line != lexer.cursor.line || 1024 < lexer.cursor.index - place.index
  if lexer.keys.any fun entry => stale entry.2 && entry.2.required then malformed
  else .ok { lexer with keys := lexer.keys.filter fun entry => !stale entry.2 }

/-- The possible key at the present depth. -/
def keyPlace? (lexer : Lexer) : Option KeyPlace :=
  (lexer.keys.find? fun entry => entry.1 == lexer.depth).map (·.2)

/-- The lexer without the possible key at the present depth. -/
def eraseKey (lexer : Lexer) : Lexer :=
  { lexer with keys := lexer.keys.filter fun entry => entry.1 != lexer.depth }

/-- Gives up the possible key at the present depth, which must not be one that is needed. -/
def forgetKey (lexer : Lexer) : Except YamlFault Lexer :=
  if lexer.keyPlace?.any (·.required) then malformed else .ok lexer.eraseKey

/-- Notes that a key may begin at the cursor. -/
def noteKey (lexer : Lexer) : Except YamlFault Lexer := do
  if !lexer.keyAllowed then return lexer
  let lexer ← lexer.forgetKey
  let place : KeyPlace :=
    { position := lexer.tokens.size
      required := lexer.depth == 0 && lexer.indent == lexer.cursor.column
      index := lexer.cursor.index
      line := lexer.cursor.line
      column := lexer.cursor.column }
  return { lexer with keys := (lexer.depth, place) :: lexer.keys }

/-- Closes every block that is indented further than a column. -/
def closeBlocks (column : Int) (lexer : Lexer) : Lexer :=
  if lexer.depth ≠ 0 then lexer
  else
    let rec close (indent : Int) (lexer : Lexer) : List Int → Lexer
      | [] => { lexer with indent, outer := [] }
      | next :: outer =>
          if column < indent then close next (lexer.push .blockEnd) outer
          else { lexer with indent, outer := next :: outer }
    close lexer.indent lexer lexer.outer

/-- Opens a block at a column if that is further in than the present one; its start takes the given
position among the tokens. -/
def openBlock (column position : Nat) (token : Token) (lexer : Lexer) : Lexer :=
  if lexer.indent < column then
    { lexer with indent := column, outer := lexer.indent :: lexer.outer }.insertAt position token
  else lexer

/-- Moves behind a mark of the given length and adds its token. -/
def mark (lexer : Lexer) (length : Nat) (token : Token) : Lexer :=
  { lexer with cursor := lexer.cursor.skip length }.push token

/-- Adds a token that was read at the cursor. -/
def take (lexer : Lexer) (found : Except YamlFault (Token × Cursor)) : Except YamlFault Lexer := do
  let (token, cursor) ← found
  return { lexer with cursor }.push token

/-- A token that ends everything open: a directive, a document mark or the end. -/
def closeAll (lexer : Lexer) : Except YamlFault Lexer := do
  let lexer ← (lexer.closeBlocks (-1)).forgetKey
  return { lexer with keyAllowed := false }

def openFlow (token : Token) (lexer : Lexer) : Except YamlFault Lexer := do
  let lexer ← lexer.noteKey
  return { lexer with depth := lexer.depth + 1, keyAllowed := true }.mark 1 token

/-- A closing bracket; one that closes nothing is left to those who take the tokens. -/
def closeFlow (token : Token) (lexer : Lexer) : Except YamlFault Lexer := do
  let lexer ← lexer.forgetKey
  return { lexer with depth := lexer.depth - 1, keyAllowed := false }.mark 1 token

def listEntry (lexer : Lexer) : Except YamlFault Lexer := do
  if lexer.depth = 0 && !lexer.keyAllowed then malformed
  let lexer :=
    if lexer.depth = 0 then
      lexer.openBlock lexer.cursor.column lexer.tokens.size .blockListStart
    else lexer
  let lexer ← { lexer with keyAllowed := true }.forgetKey
  return lexer.mark 1 .blockEntry

def explicitKey (lexer : Lexer) : Except YamlFault Lexer := do
  if lexer.depth = 0 && !lexer.keyAllowed then malformed
  let lexer :=
    if lexer.depth = 0 then
      lexer.openBlock lexer.cursor.column lexer.tokens.size .blockMapStart
    else lexer
  let lexer ← { lexer with keyAllowed := lexer.depth == 0 }.forgetKey
  return lexer.mark 1 .key

def mapValue (lexer : Lexer) : Except YamlFault Lexer := do
  match lexer.keyPlace? with
  | some place =>
      let lexer := lexer.eraseKey.insertAt place.position .key
      let lexer :=
        if lexer.depth = 0 then
          lexer.openBlock place.column place.position .blockMapStart
        else lexer
      return { lexer with keyAllowed := false }.mark 1 .value
  | none =>
      if lexer.depth = 0 && !lexer.keyAllowed then malformed
      let lexer :=
        if lexer.depth = 0 then
          lexer.openBlock lexer.cursor.column lexer.tokens.size .blockMapStart
        else lexer
      return { lexer with keyAllowed := lexer.depth == 0 }.mark 1 .value

/-- A token that may be a key and behind which no key may begin. -/
def keyLike (lexer : Lexer) (found : Except YamlFault (Token × Cursor)) :
    Except YamlFault Lexer := do
  let lexer ← lexer.noteKey
  { lexer with keyAllowed := false }.take found

def blockScalar (lexer : Lexer) : Except YamlFault Lexer := do
  let lexer ← { lexer with keyAllowed := true }.forgetKey
  lexer.take (blockScalarAt lexer.indent lexer.cursor)

def plainScalar (lexer : Lexer) : Except YamlFault Lexer := do
  let lexer ← lexer.noteKey
  let (content, broken, cursor) :=
    plainRuns (lexer.depth != 0) (lexer.indent + 1) [] false lexer.cursor.rest.length.succ
      lexer.cursor
  return { lexer with cursor, keyAllowed := broken }.push (.scalar content true)

/-- Whether a plain scalar can begin with a code point that is followed by another. -/
def beginsPlain (inFlow : Bool) (point : CodePoint) (following : Option CodePoint) : Bool :=
  !(isBreak point || isSpaceOrTab point || isOneOf "-?:,[]\x7b\x7d#&*!|>'\"%@\x60" point) ||
    (!endsToken following && (point = '-' || (!inFlow && (point = '?' || point = ':'))))

def anchorToken (token : Text → Token) (cursor : Cursor) : Except YamlFault (Token × Cursor) := do
  let (name, cursor) ← anchorAt cursor
  return (token name, cursor)

/-- Reads the next token, at a cursor that stands on `point`. -/
def step (point : CodePoint) (lexer : Lexer) : Except YamlFault Lexer := do
  let cursor := lexer.cursor
  let following := cursor.peek 1
  let inFlow := lexer.depth != 0
  if point = '%' && cursor.column = 0 then
    let lexer ← lexer.closeAll
    lexer.take (directiveAt cursor)
  else if cursor.column = 0 && cursor.atDocumentMark then
    let lexer ← lexer.closeAll
    return lexer.mark 3 (if point = '-' then .documentStart else .documentEnd)
  else if point = '[' then lexer.openFlow .flowListStart
  else if point = '\x7b' then lexer.openFlow .flowMapStart
  else if point = ']' then lexer.closeFlow .flowListEnd
  else if point = '\x7d' then lexer.closeFlow .flowMapEnd
  else if point = ',' then
    let lexer ← { lexer with keyAllowed := true }.forgetKey
    return lexer.mark 1 .flowEntry
  else if point = '-' && endsToken following then lexer.listEntry
  else if point = '?' && (inFlow || endsToken following) then lexer.explicitKey
  else if point = ':' && (inFlow || endsToken following) then lexer.mapValue
  else if point = '*' then lexer.keyLike (anchorToken .reference cursor)
  else if point = '&' then lexer.keyLike (anchorToken .anchor cursor)
  else if point = '!' then lexer.keyLike (tagAt cursor)
  else if (point = '|' || point = '>') && !inFlow then lexer.blockScalar
  else if point = '\'' || point = '"' then lexer.keyLike (quotedScalarAt cursor)
  else if beginsPlain inFlow point following then lexer.plainScalar
  else malformed

/-- Reads the next token, or the tokens that end the text. -/
def advance (lexer : Lexer) : Except YamlFault Lexer := do
  let lexer ← (skipBlanks lexer.cursor.rest.length.succ lexer).dropStaleKeys
  let lexer := lexer.closeBlocks lexer.cursor.column
  match lexer.cursor.rest with
  | [] =>
      let lexer ← lexer.closeAll
      return { lexer with keys := [], finished := true }.push .streamEnd
  | point :: _ => lexer.step point

/-- Whether the token to hand out next is a place where a key may have begun. -/
def isUndecided (lexer : Lexer) : Bool :=
  lexer.keys.any (fun entry => entry.2.position == lexer.taken) &&
    lexer.keys.all fun entry => lexer.taken ≤ entry.2.position

/-- Reads on until the next token is known. -/
def fill : Nat → Lexer → Except YamlFault Lexer
  | 0, _ => malformed
  | budget + 1, lexer => do
      if lexer.finished then return lexer
      if lexer.taken < lexer.tokens.size then
        let lexer ← lexer.dropStaleKeys
        if !lexer.isUndecided then return lexer
        fill budget { (← lexer.advance) with budget }
      else fill budget { (← lexer.advance) with budget }

/-- The next token. -/
def peek (lexer : Lexer) : Except YamlFault (Token × Lexer) := do
  let lexer ← lexer.fill (lexer.budget + 1)
  match lexer.tokens[lexer.taken]? with
  | some token => return (token, lexer)
  | none => malformed

/-- The lexer behind the next token, which was looked at. -/
def drop (lexer : Lexer) : Lexer := { lexer with taken := lexer.taken + 1 }

end Lexer

/-- Code points that may stand in a YAML text. -/
def isReadable (point : CodePoint) : Bool :=
  point.val = 0x09 || point.val = 0x0A || point.val = 0x0D || point.val = 0x85 ||
    (0x20 ≤ point.val && point.val ≤ 0x7E) || (0xA0 ≤ point.val && point.val ≤ 0xD7FF) ||
    (0xE000 ≤ point.val && point.val ≤ 0xFFFD) || 0x10000 ≤ point.val

end Yaml

end EventForge
