import Findings.Simulation.Shell.Token

/-!
Contract: the text of a shell script.

Owns:
- words with their quotes and with what is put in for parts of them;
- here-documents, whose text comes behind the line of their redirection;
- commands, by the token that they start with;
- `nextCommand`, the commands up to the end of a line that can be the end of a
  command.  A script is read one such line at a time, so a fault is met only
  when its line is.

Does not own: what a command does.
-/

namespace Findings.Simulation.Shell

/-! ## Words -/

/-- A word that is read: the pieces behind which characters of one kind were
read, both last first. -/
structure WordDraft where
  pieces : Word
  chars : List Char
  isQuoted : Bool

namespace WordDraft

def empty : WordDraft := ⟨[], [], false⟩

def all (draft : WordDraft) : Word :=
  if draft.chars.isEmpty then draft.pieces
  else .literal draft.chars.reverse draft.isQuoted :: draft.pieces

def add (draft : WordDraft) (c : Char) (quoted : Bool) : WordDraft :=
  if draft.isQuoted = quoted then { draft with chars := c :: draft.chars }
  else ⟨draft.all, [c], quoted⟩

def push (draft : WordDraft) (piece : Piece) : WordDraft :=
  ⟨piece :: draft.all, [], draft.isQuoted⟩

def append (draft : WordDraft) (word : Word) : WordDraft :=
  ⟨word.reverse ++ draft.all, [], draft.isQuoted⟩

def finish (draft : WordDraft) : Word :=
  draft.all.reverse

end WordDraft

def isMeta (c : Char) : Bool :=
  [' ', '\t', '\n', ';', '&', '|', '<', '>', '(', ')'].contains c

inductive Quotes where
  /-- Between double quotes. -/
  | string
  /-- Between double quotes inside the word of a parameter. -/
  | innerString
  /-- In the word of a parameter between double quotes. -/
  | parameterWord
  | arithmetic
  /-- In a here-document. -/
  | document
  /-- In the word of a parameter in a here-document. -/
  | documentWord
deriving DecidableEq, Repr

namespace Quotes

/-- Whether text is the word of a parameter that a brace ends. -/
def isParameter (quotes : Quotes) : Bool :=
  quotes = .parameterWord || quotes = .documentWord

/-- Whether a backslash takes its meaning away from a character. -/
def escapes (quotes : Quotes) (c : Char) : Bool :=
  ['\\', '\x60', '$'].contains c
    || (c == '"' && quotes != .document)
    || (c == '\x7d' && (quotes.isParameter || quotes = .innerString))

def inner : Quotes → Quotes
  | document | documentWord => documentWord
  | _ => parameterWord

def openWording : Quotes → String
  | arithmetic => "Missing '))'"
  | documentWord => "Missing '\x7d'"
  | _ => "Unterminated quoted string"

end Quotes

/-- What stands behind the name of a parameter in braces. -/
structure ParameterOperator where
  change : Change
  emptyToo : Bool
  /-- Whether a word follows up to the closing brace. -/
  hasWord : Bool

/-- A text without the joined line ends at its front, and their number. -/
def dropJoins : List Char → List Char × Nat
  | '\\' :: '\n' :: rest =>
    let (rest, count) := dropJoins rest
    (rest, count + 1)
  | rest => (rest, 0)

/-- The lines up to the one that is the delimiter of a here-document, with the
text behind it and the number of lines that were taken.  Where `joins`, a
backslash at the end of a line joins it with the next. -/
def splitDocument (request : DocumentRequest) :
    Nat → (read rest : List Char) → (lines : Nat) → List Char × List Char × Nat
  | 0, read, rest, lines => (read.reverse, rest, lines)
  | bound + 1, read, rest, lines =>
    if rest.isEmpty then
      (read.reverse, [], lines)
    else
      let (rest, joins) := if request.expands then dropJoins rest else (rest, 0)
      let rest := if request.stripsTabs then rest.dropWhile (· = '\t') else rest
      let rec logicalLine (taken : List Char) (lines : Nat) : List Char → List Char × List Char × Nat
        | [] => (taken, [], lines)
        | '\n' :: rest => ('\n' :: taken, rest, lines + 1)
        | '\\' :: c :: rest =>
          if request.expands then
            logicalLine (c :: '\\' :: taken) (if c = '\n' then lines + 1 else lines) rest
          else if c = '\n' then
            ('\n' :: '\\' :: taken, rest, lines + 1)
          else
            logicalLine ('\\' :: taken) lines (c :: rest)
        | c :: rest => logicalLine (c :: taken) lines rest
      let (line, after, lines) := logicalLine [] (lines + joins) rest
      let content := (if line.head? = some '\n' then line.tail else line).reverse
      if content = request.delimiter then
        (read.reverse, after, lines)
      else
        splitDocument request bound (line ++ read) after lines

def unquoted (word : Word) : List Char :=
  word.flatMap fun
    | .literal text _ => text
    | _ => []

def nothing : Command :=
  .simple 0 [] [] []

mutual

/-- Reads the pieces of a word that stands by itself, behind those already
read. -/
def wordPieces : Nat → WordDraft → Parser Word
  | 0, _ => Parser.fault "word too long"
  | bound + 1, draft => do
    match ← Parser.peek with
    | none => return draft.finish
    | some c =>
      if isMeta c then return draft.finish
      else wordPieces bound (← plainPiece bound false draft)

/-- Reads the pieces of the word of a parameter that is not between double
quotes. -/
def bracePieces : Nat → WordDraft → Parser Word
  | 0, _ => Parser.fault "word too long"
  | bound + 1, draft => do
    match ← Parser.peek with
    | none => Parser.fault Quotes.documentWord.openWording
    | some '\x7d' =>
      let _ ← Parser.rawChar
      return draft.finish
    | some _ => bracePieces bound (← plainPiece bound true draft)

/-- Reads one piece of text that is not between double quotes; `isInner` text
is the word of a parameter. -/
def plainPiece : Nat → (isInner : Bool) → WordDraft → Parser WordDraft
  | 0, _, _ => Parser.fault "word too long"
  | bound + 1, isInner, draft => do
    let noteQuotes : Parser Unit := modify fun reader => { reader with isQuoted := true }
    match ← Parser.char with
    | none => return draft
    | some '\\' =>
      noteQuotes
      return draft.add ((← Parser.rawChar).getD '\\') true
    | some '\'' =>
      noteQuotes
      let inside ← singleQuoted bound []
      let word : Word := if inside.isEmpty then [] else [.literal inside true]
      return ((draft.push .mark).append word).push .mark
    | some '"' =>
      noteQuotes
      let quotes := if isInner then Quotes.innerString else .string
      let word ← quotedPieces bound quotes false .empty
      return ((draft.push .mark).append word).push .mark
    | some '$' => insertion bound none draft
    | some '\x60' =>
      if (← get).outlook.delimiter then return draft.add '\x60' false
      else return draft.push (← backquoted bound false)
    | some c => return draft.add c false

/-- Reads text up to a single quote, after that already read, which is given
last character first. -/
def singleQuoted : Nat → List Char → Parser (List Char)
  | 0, _ => Parser.fault "word too long"
  | bound + 1, read => do
    match ← Parser.rawChar with
    | none => Parser.fault Quotes.string.openWording
    | some '\'' => return read.reverse
    | some c => singleQuoted bound (c :: read)

/-- Reads the pieces of text between quotes up to its end.  `isOpen` says
whether another double quote, or a bracket of arithmetic, is open inside. -/
def quotedPieces : Nat → (quotes : Quotes) → (isOpen : Bool) → WordDraft → Parser Word
  | 0, _, _, _ => Parser.fault "word too long"
  | bound + 1, quotes, isOpen, draft => do
    let goOn (draft : WordDraft) : Parser Word := quotedPieces bound quotes isOpen draft
    match ← Parser.char with
    | none =>
      if quotes = .document then return draft.finish else Parser.fault quotes.openWording
    | some '\\' =>
      match ← Parser.rawChar with
      | none => goOn (draft.add '\\' true)
      | some c =>
        if quotes.escapes c then goOn (draft.add c true)
        else goOn ((draft.add '\\' true).add c true)
    | some '"' =>
      match quotes with
      | .string | .innerString => return draft.finish
      | .arithmetic | .document => goOn (draft.add '"' true)
      | .parameterWord | .documentWord =>
        quotedPieces bound quotes (!isOpen) (draft.push .mark)
    | some '\x7d' =>
      if quotes.isParameter && !isOpen then return draft.finish
      else goOn (draft.add '\x7d' true)
    | some '(' =>
      if quotes = .arithmetic then
        let inside ← quotedPieces bound .arithmetic true .empty
        goOn (((draft.add '(' true).append inside).add ')' true)
      else
        goOn (draft.add '(' true)
    | some ')' =>
      if quotes ≠ .arithmetic then goOn (draft.add ')' true)
      else if isOpen then return draft.finish
      else if ← Parser.take? ')' then return draft.finish
      else goOn (draft.add ')' true)
    | some '$' => goOn (← insertion bound (some quotes) draft)
    | some '\x60' => goOn (draft.push (← backquoted bound true))
    | some c => goOn (draft.add c true)

def insertion : Nat → (quotes : Option Quotes) → WordDraft → Parser WordDraft
  | 0, _, _ => Parser.fault "word too long"
  | bound + 1, quotes, draft => do
    let quoted := quotes.isSome
    let isDelimiter := (← get).outlook.delimiter
    match ← Parser.peek with
    | none => return draft.add '$' quoted
    | some c =>
      if isDelimiter then
        return draft.add '$' quoted
      else if c = '(' then
        let _ ← Parser.rawChar
        if ← Parser.take? '(' then
          return draft.push (.arithmetic (← quotedPieces bound .arithmetic false .empty) quoted)
        else
          return draft.push (.output (← substitution bound) quoted)
      else if c = '\x7b' then
        let _ ← Parser.rawChar
        return draft.push (← braced bound quotes)
      else if isNameStart c then
        let name ← Parser.charsOf isNameChar bound []
        return draft.push (.parameter name .keep false [] quoted)
      else if isSpecial c then
        let _ ← Parser.rawChar
        return draft.push (.parameter [c] .keep false [] quoted)
      else
        return draft.add '$' quoted

def braced : Nat → (quotes : Option Quotes) → Parser Piece
  | 0, _ => Parser.fault "word too long"
  | bound + 1, quotes => do
    let quoted := quotes.isSome
    let finish (name : List Char) (operator : ParameterOperator) : Parser Piece := do
      if operator.hasWord then
        let isTrim := match operator.change with
          | .dropFront _ | .dropEnd _ => true
          | _ => false
        let word ← match quotes with
          | some quotes =>
            if isTrim then bracePieces bound .empty
            else quotedPieces bound quotes.inner false .empty
          | none => bracePieces bound .empty
        return .parameter name operator.change operator.emptyToo word quoted
      else
        return .parameter name operator.change operator.emptyToo [] quoted
    match ← Parser.peek with
    | some '#' => do
      let _ ← Parser.rawChar
      let next ← Parser.peek
      if next.any isNameChar then
        let name ← lengthName bound
        let change := if (← Parser.peek) = some '\x7d' then Change.length else .unknown
        finish name ⟨change, false, true⟩
      else
        -- The count of parameters, or the length of a special one.
        let reader ← get
        let _ ← Parser.char
        let isLength := next ≠ some '\x7d' && (← Parser.peek) == some '\x7d'
        match next, isLength with
        | some c, true =>
          finish [c] ⟨if isSpecial c then .length else .unknown, false, true⟩
        | _, _ =>
          set reader
          finish ['#'] (← parameterOperator)
    | some c =>
      if isNameStart c then
        let name ← Parser.charsOf isNameChar bound []
        finish name (← parameterOperator)
      else if c.isDigit then
        let name ← Parser.charsOf Char.isDigit bound []
        finish name (← parameterOperator)
      else if isSpecial c then
        let _ ← Parser.rawChar
        finish [c] (← parameterOperator)
      else
        finish [] ⟨.unknown, false, true⟩
    | none => finish [] ⟨.unknown, false, true⟩

/-- Reads the name of a parameter whose length is asked for. -/
def lengthName : Nat → Parser (List Char)
  | 0 => Parser.fault "word too long"
  | bound + 1 => do
    if (← Parser.peek).any Char.isDigit then Parser.charsOf Char.isDigit bound []
    else Parser.charsOf isNameChar bound []

/-- Reads what stands behind the name of a parameter in braces. -/
def parameterOperator : Parser ParameterOperator := do
  let first ← Parser.char
  let emptyToo := first == some ':'
  let c ← if emptyToo then Parser.char else pure first
  -- The end of a line in place of an operator does not count as one.
  if c = some '\n' then
    modify fun reader => { reader with line := reader.line - 1 }
  match c with
  | some '\x7d' => return ⟨.keep, emptyToo, emptyToo⟩
  | some '-' => return ⟨.orElse, emptyToo, true⟩
  | some '+' => return ⟨.ifPresent, emptyToo, true⟩
  | some '?' => return ⟨.orFail, emptyToo, true⟩
  | some '=' => return ⟨.orAssign, emptyToo, true⟩
  | some '%' =>
    if emptyToo then return ⟨.unknown, true, true⟩
    else return ⟨.dropEnd (← Parser.take? '%'), false, true⟩
  | some '#' =>
    if emptyToo then return ⟨.unknown, true, true⟩
    else return ⟨.dropFront (← Parser.take? '#'), false, true⟩
  | _ => return ⟨.unknown, emptyToo, true⟩

def substitution : Nat → Parser (Option Command)
  | 0 => Parser.fault "word too long"
  | bound + 1 => do
    let outer ← get
    set { outer with requests := [] }
    let body ← list bound true true
    if (← readToken bound) ≠ .rightBracket then
      Parser.unexpected (some .rightBracket)
    modify fun reader =>
      { reader with
        requests := outer.requests
        isQuoted := outer.isQuoted
        outlook := outer.outlook }
    return body

def backquoted : Nat → (quoted : Bool) → Parser Piece
  | 0, _ => Parser.fault "word too long"
  | bound + 1, quoted => do
    let text ← backquotedText bound quoted []
    let outer ← get
    set { outer with rest := text, line := 1, requests := [], uses := [] }
    let body ← list bound true true
    modify fun reader =>
      { reader with
        rest := outer.rest
        line := outer.line
        again := false
        requests := outer.requests
        isQuoted := outer.isQuoted
        outlook := outer.outlook
        uses := outer.uses }
    return .output body quoted

/-- Reads the text up to a backward quote, after that already read, which is
given last character first. -/
def backquotedText : Nat → (quoted : Bool) → List Char → Parser (List Char)
  | 0, _, _ => Parser.fault "word too long"
  | bound + 1, quoted, read => do
    match ← Parser.char with
    | none => Parser.fault "EOF in backquote substitution"
    | some '\x60' => return read.reverse
    | some '\\' =>
      match ← Parser.rawChar with
      | none => Parser.fault "EOF in backquote substitution"
      | some c =>
        if ['\\', '\x60', '$'].contains c || (quoted && c = '"') then
          backquotedText bound quoted (c :: read)
        else
          backquotedText bound quoted (c :: '\\' :: read)
    | some c => backquotedText bound quoted (c :: read)

/-- Reads the here-documents that come behind the line. -/
def readDocuments : Nat → Parser Unit
  | 0 => Parser.fault "too many documents"
  | bound + 1 => do
    let reader ← get
    match reader.requests with
    | [] => return
    | request :: more =>
      let (text, after, lines) :=
        splitDocument request (reader.rest.length + 1) [] reader.rest 0
      let body ←
        if request.expands then do
          set { reader with rest := text, requests := [], outlook := Outlook.none }
          quotedPieces bound .document false .empty
        else
          pure [Piece.literal text true]
      modify fun inner =>
        { inner with
          rest := after
          line := reader.line + lines
          requests := more
          again := reader.again
          last := reader.last
          outlook := reader.outlook
          word := reader.word
          isQuoted := reader.isQuoted
          documents := ⟨request.number, body⟩ :: inner.documents }
      readDocuments bound

/-- Reads a redirection operator behind the digits that may stand in front of
it. -/
def redirectionStart : Nat → (digit : Option Nat) → Parser Token
  | 0, _ => Parser.fault "word too long"
  | _ + 1, digit => do
    let isOutput := (← Parser.char) == some '>'
    let (direction, stripsTabs) ←
      if isOutput then do
        if ← Parser.take? '>' then pure (Direction.append, false)
        else if ← Parser.take? '|' then pure (Direction.overwrite, false)
        else if ← Parser.take? '&' then pure (Direction.duplicate, false)
        else pure (Direction.write, false)
      else do
        if ← Parser.take? '<' then
          let stripsTabs ← Parser.take? '-'
          let number := (← get).fresh
          modify fun reader => { reader with fresh := number + 1 }
          pure (Direction.here number, stripsTabs)
        else if ← Parser.take? '&' then pure (Direction.duplicate, false)
        else if ← Parser.take? '>' then pure (Direction.readWrite, false)
        else pure (Direction.read, false)
    let start : RedirectionStart :=
      ⟨digit.getD (if isOutput then 1 else 0), direction, stripsTabs⟩
    modify fun reader => { reader with start := start, last := .redirection }
    return .redirection

def rawToken : Nat → Parser Token
  | 0 => Parser.fault "word too long"
  | bound + 1 => do
    let give (token : Token) : Parser Token := do
      modify fun reader => { reader with last := token }
      return token
    let reader ← get
    if reader.again then
      set { reader with again := false }
      return reader.last
    else
      match ← Parser.peek with
      | none => give .endOfFile
      | some c =>
        if c = ' ' || c = '\t' then
          let _ ← Parser.rawChar
          rawToken bound
        else if c = '#' then
          modify fun reader => { reader with rest := reader.rest.dropWhile (· ≠ '\n') }
          rawToken bound
        else if c = '<' || c = '>' then
          redirectionStart bound none
        else if isMeta c then
          let _ ← Parser.rawChar
          match c with
          | '\n' => give .newline
          | '&' => give (if ← Parser.take? '&' then .andIf else .background)
          | '|' => give (if ← Parser.take? '|' then .orIf else .pipe)
          | ';' => give (if ← Parser.take? ';' then .endBranch else .semicolon)
          | '(' => give .leftBracket
          | _ => give .rightBracket
        else
          modify fun reader => { reader with isQuoted := false }
          let word ← wordPieces bound .empty
          let next ← Parser.peek
          let isQuoted := (← get).isQuoted
          let isDescriptor := match word with
            | [.literal [d] false] => d.isDigit && (next == some '<' || next == some '>')
            | _ => false
          if isDescriptor && !isQuoted then
            let digit := ((plainText? word).getD []).foldl
              (fun value d => value * 10 + (d.toNat - '0'.toNat)) 0
            redirectionStart bound (some digit)
          else
            modify fun reader => { reader with word := word }
            give .word

def readToken : Nat → Parser Token
  | 0 => Parser.fault "word too long"
  | bound + 1 => do
    let outlook := (← get).outlook
    let before := (← get).rest.length
    let token ← rawToken bound
    if outlook.skipsLines && token = .newline then
      readDocuments bound
      Parser.expect outlook
      readToken bound
    else
      Parser.expect Outlook.none
      let reader ← get
      let goesOn := reader.uses.any fun use =>
        use.goesOn && use.behind ≤ before && reader.rest.length < use.behind
      match token, reader.isQuoted, plainText? reader.word with
      | .word, false, some text =>
        let name := textOf text
        if outlook.reserved && reservedWords.contains name then
          set { reader with last := .reserved name }
          return .reserved name
        else if outlook.aliases || goesOn then
          let isUsed := reader.uses.any fun use =>
            use.name = text && use.behind ≤ reader.rest.length
          match isUsed, reader.aliases.lookup text with
          | false, some stands =>
            let uses := reader.uses.filter fun use => use.behind ≤ reader.rest.length
            let isBlank := stands.getLast?.any fun c => c == ' ' || c == '\t'
            set { reader with
              rest := stands ++ reader.rest
              uses := ⟨text, reader.rest.length, isBlank⟩ :: uses
              outlook := outlook }
            readToken bound
          | _, _ => return token
        else
          return token
      | _, _, _ => return token

def expectToken : Nat → Token → Parser Unit
  | 0, _ => Parser.fault "word too long"
  | bound + 1, token => do
    if (← readToken bound) ≠ token then
      Parser.unexpected (some token)

def redirectionTarget : Nat → Parser Redirection
  | 0 => Parser.fault "word too long"
  | bound + 1 => do
    let start := (← get).start
    match start.direction with
    | .here number =>
      Parser.expect { Outlook.none with delimiter := true }
      if (← readToken bound) ≠ .word then Parser.unexpected none
      modify fun reader =>
        { reader with
          requests := reader.requests
            ++ [⟨number, unquoted reader.word, start.stripsTabs, !reader.isQuoted⟩] }
      return .mk start.descriptor start.direction []
    | direction =>
      if (← readToken bound) ≠ .word then Parser.unexpected none
      return .mk start.descriptor direction (← get).word

/-- Reads commands up to the end of a list, or up to the end of a line.
`isInner` lists go over several lines; where `mayBeEmpty`, the list may end
before its first command. -/
def list : Nat → (isInner mayBeEmpty : Bool) → Parser (Option Command)
  | 0, _, _ => Parser.fault "command too long"
  | bound + 1, isInner, mayBeEmpty => listAfter bound isInner mayBeEmpty none

/-- Reads the rest of a list behind what was already read. -/
def listAfter : Nat → (isInner mayEnd : Bool) → Option Command → Parser (Option Command)
  | 0, _, _, _ => Parser.fault "command too long"
  | bound + 1, isInner, mayEnd, read => do
    Parser.expect (if isInner then Outlook.laterCommand else Outlook.command)
    let token ← readToken bound
    match token with
    | .newline =>
      readDocuments bound
      return read
    | .endOfFile =>
      readDocuments bound
      Parser.unread
      modify fun reader => { reader with last := .endOfFile }
      return read
    | _ =>
      Parser.unread
      if isInner && mayEnd && token.endsList then
        return read
      else
        let line ← Parser.line
        let next ← connected bound (← pipeline bound)
        let token ← readToken bound
        let next := if token = .background then .background line next else next
        let read := match read with
          | none => next
          | some first => .sequence first next
        match token with
        | .newline | .endOfFile =>
          Parser.unread
          listAfter bound isInner true (some read)
        | .background | .semicolon => listAfter bound isInner true (some read)
        | _ =>
          if isInner then
            Parser.unread
            return some read
          else
            Parser.unexpected none

/-- Reads the pipelines that depend on one that was read. -/
def connected : Nat → Command → Parser Command
  | 0, _ => Parser.fault "command too long"
  | bound + 1, first => do
    match ← readToken bound with
    | .andIf =>
      Parser.expect Outlook.laterCommand
      connected bound (.both first (← pipeline bound))
    | .orIf =>
      Parser.expect Outlook.laterCommand
      connected bound (.either first (← pipeline bound))
    | _ =>
      Parser.unread
      return first

def pipeline : Nat → Parser Command
  | 0 => Parser.fault "command too long"
  | bound + 1 => do
    let isNegated := (← readToken bound) = .reserved "!"
    if isNegated then Parser.expect Outlook.command else Parser.unread
    let first ← command bound
    let stages ← pipelineStages bound [first]
    let whole := match stages with
      | [only] => only
      | several => .pipeline several
    return if isNegated then .negated whole else whole

/-- Reads the stages of a pipeline behind those already read, which are given
last first. -/
def pipelineStages : Nat → List Command → Parser (List Command)
  | 0, _ => Parser.fault "command too long"
  | bound + 1, read => do
    if (← readToken bound) = .pipe then
      Parser.expect Outlook.laterCommand
      pipelineStages bound ((← command bound) :: read)
    else
      Parser.unread
      return read.reverse

def command : Nat → Parser Command
  | 0 => Parser.fault "command too long"
  | bound + 1 => do
    let line ← Parser.line
    match ← readToken bound with
    | .reserved "if" =>
      let whole ← branchBody bound
      expectToken bound (.reserved "fi")
      withRedirections bound line whole
    | .reserved "while" => loopBody bound line false
    | .reserved "until" => loopBody bound line true
    | .reserved "for" =>
      let token ← readToken bound
      let reader ← get
      match token, reader.isQuoted, plainText? reader.word with
      | .word, false, some name =>
        if isName name then
          Parser.expect Outlook.laterCommand
          let words ←
            if (← readToken bound) = .reserved "in" then do
              let words ← wordsOfLine bound []
              if (← get).last ≠ .newline && (← get).last ≠ .semicolon then
                Parser.unexpected none
              pure words
            else do
              if (← get).last ≠ .semicolon then Parser.unread
              pure [[.mark, .parameter ['@'] .keep false [] true, .mark]]
          Parser.expect Outlook.laterCommand
          expectToken bound (.reserved "do")
          let body ← innerList bound
          expectToken bound (.reserved "done")
          withRedirections bound line (.each line name words body)
        else
          Parser.fault "Bad for loop variable"
      | _, _, _ => Parser.fault "Bad for loop variable"
    | .reserved "case" =>
      if (← readToken bound) ≠ .word then Parser.unexpected (some .word)
      let chosen := (← get).word
      Parser.expect Outlook.laterCommand
      expectToken bound (.reserved "in")
      let branches ← choiceBranches bound []
      withRedirections bound line (.choose line chosen branches)
    | .leftBracket =>
      let body ← innerList bound
      expectToken bound .rightBracket
      let changes ← redirections bound []
      return .subshell line body changes
    | .reserved "\x7b" =>
      let body ← innerList bound
      expectToken bound (.reserved "\x7d")
      withRedirections bound line body
    | .word | .redirection =>
      Parser.unread
      simpleCommand bound (← Parser.line) true [] [] []
    | _ => Parser.unexpected none

/-- Reads a list that has a command unless the script ends. -/
def innerList : Nat → Parser Command
  | 0 => Parser.fault "command too long"
  | bound + 1 => do
    return (← list bound true false).getD nothing

def branchBody : Nat → Parser Command
  | 0 => Parser.fault "command too long"
  | bound + 1 => do
    let condition ← innerList bound
    expectToken bound (.reserved "then")
    let consequent ← innerList bound
    match ← readToken bound with
    | .reserved "elif" => return .branch condition consequent (some (← branchBody bound))
    | .reserved "else" => return .branch condition consequent (some (← innerList bound))
    | _ =>
      Parser.unread
      return .branch condition consequent none

def loopBody : Nat → (line : Nat) → (stopOn : Bool) → Parser Command
  | 0, _, _ => Parser.fault "command too long"
  | bound + 1, line, stopOn => do
    let condition ← innerList bound
    expectToken bound (.reserved "do")
    let body ← innerList bound
    expectToken bound (.reserved "done")
    withRedirections bound line (.loop stopOn condition body)

def wordsOfLine : Nat → List Word → Parser (List Word)
  | 0, _ => Parser.fault "command too long"
  | bound + 1, read => do
    if (← readToken bound) = .word then
      wordsOfLine bound ((← get).word :: read)
    else
      return read.reverse

/-- Reads the branches of a choice behind those already read, which are given
last first. -/
def choiceBranches : Nat → List (List Word × Option Command) →
    Parser (List (List Word × Option Command))
  | 0, _ => Parser.fault "command too long"
  | bound + 1, read => do
    Parser.expect { Outlook.laterCommand with aliases := false }
    if (← readToken bound) = .reserved "esac" then
      return read.reverse
    else
      if (← get).last = .leftBracket then
        let _ ← readToken bound
      let patterns ← choicePatterns bound []
      let body ← list bound true true
      Parser.expect { Outlook.laterCommand with aliases := false }
      match ← readToken bound with
      | .reserved "esac" => return ((patterns, body) :: read).reverse
      | .endBranch => choiceBranches bound ((patterns, body) :: read)
      | _ => Parser.unexpected (some .endBranch)

/-- Reads the patterns of a branch, the first of which is the last word. -/
def choicePatterns : Nat → List Word → Parser (List Word)
  | 0, _ => Parser.fault "command too long"
  | bound + 1, read => do
    let pattern := (← get).word
    match ← readToken bound with
    | .pipe =>
      let _ ← readToken bound
      choicePatterns bound (pattern :: read)
    | .rightBracket => return (pattern :: read).reverse
    | _ => Parser.unexpected (some .rightBracket)

/-- Reads redirections behind those already read, which are given last
first. -/
def redirections : Nat → List Redirection → Parser (List Redirection)
  | 0, _ => Parser.fault "command too long"
  | bound + 1, read => do
    Parser.expect Outlook.command
    if (← readToken bound) = .redirection then
      redirections bound ((← redirectionTarget bound) :: read)
    else
      Parser.unread
      return read.reverse

def withRedirections : Nat → (line : Nat) → Command → Parser Command
  | 0, _, _ => Parser.fault "command too long"
  | bound + 1, line, whole => do
    match ← redirections bound [] with
    | [] => return whole
    | changes => return .redirected line whole changes

/-- Reads a simple command, or a function, behind what was already read, which
is given last first.  Only words may follow once `isFirst` does not hold. -/
def simpleCommand : Nat → (line : Nat) → (isFirst : Bool) →
    List (List Char × Word) → List Word → List Redirection → Parser Command
  | 0, _, _, _, _, _ => Parser.fault "command too long"
  | bound + 1, line, isFirst, assignments, words, changes => do
    Parser.expect { Outlook.none with aliases := isFirst }
    match ← readToken bound with
    | .word =>
      let word := (← get).word
      match isFirst, assignment? word with
      | true, some assignment =>
        simpleCommand bound line true (assignment :: assignments) words changes
      | _, _ => simpleCommand bound line false assignments (word :: words) changes
    | .redirection =>
      let change ← redirectionTarget bound
      simpleCommand bound line isFirst assignments words (change :: changes)
    | .leftBracket =>
      match assignments, words, changes with
      | [], [name], [] => functionBody bound name
      | _, _, _ =>
        Parser.unread
        return .simple line assignments.reverse words.reverse changes.reverse
    | _ =>
      Parser.unread
      return .simple line assignments.reverse words.reverse changes.reverse

/-- Reads a function behind its name and an opening bracket. -/
def functionBody : Nat → Word → Parser Command
  | 0, _ => Parser.fault "command too long"
  | bound + 1, name => do
    expectToken bound .rightBracket
    match plainText? name with
    | some name =>
      if isName name && !(specialCommands.contains (textOf name)) then
        Parser.expect Outlook.laterCommand
        let line ← Parser.line
        return .define line name (← command bound)
      else
        Parser.fault "Bad function name"
    | none => Parser.fault "Bad function name"

end

/-! ## Scripts -/

def Reader.ofText (text : List Char) (line : Nat) : Reader where
  rest := text.filter (· ≠ '\x00')
  line := line
  again := false
  last := .newline
  outlook := Outlook.none
  word := []
  isQuoted := false
  start := ⟨0, .read, false⟩
  requests := []
  documents := []
  fresh := 0
  aliases := []
  uses := []

/-- The commands up to the next end of a line, and the reader behind them. -/
def nextCommand (reader : Reader) : Except SyntaxFault (Option Command × Reader) :=
  (list (16 * reader.rest.length + 64) false false).run
    { reader with again := false, requests := [], documents := [] }

/-- A text as the word that it is between double quotes. -/
def quotedWord? (text : List Char) : Option Word :=
  match (quotedPieces (16 * text.length + 64) .document false .empty).run (.ofText text 1) with
  | .ok (word, _) => some word
  | .error _ => none

end Findings.Simulation.Shell
