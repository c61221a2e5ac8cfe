import Collate.Markup.Reference
import Collate.Text.Blank
import Collate.Text.Quoted

/-!
# Pieces of markup

Markup is a sequence of pieces: opening and closing tags, text, and the notes that
are not shown.  Any text can be cut into pieces; only a marked section of unknown
kind is rejected.

The text is read in two passes.  The first stops at a piece that is not complete: a
tag without its end, or a reference that more text might change.  The second starts
there, knowing that nothing follows, and takes what remains incomplete as text.  In
a `script` or `style` everything up to the closing tag is text, and without a
closing tag it is lost.

## Strategy

`beginning` says what begins at a `<`; every kind of piece has a function of its own
that returns the piece and what follows it, or nothing if the piece is not complete.
`scan` repeats this while the text gets shorter.
-/

namespace Collate.Markup

open Text

/-! ## Pieces -/

/-- A piece of markup. -/
inductive Piece where
  /-- An opening tag; one that is `selfClosed` is at once its closing tag. -/
  | opening (name : String) (attributes : List (String × String)) (selfClosed : Bool)
  | closing (name : String)
  | text (content : List Char)
  | comment (content : List Char)
  | doctype (content : List Char)
  | instruction (content : List Char)
  /-- A marked section or another declaration, with what its brackets hold. -/
  | declaration (content : List Char)

/-- Why a text is rejected as markup. -/
inductive Rejection where
  | unknownSection (keyword : String)
  | namelessSection (start : String)

/-- The wording of a rejection. -/
def Rejection.message (rejection : Rejection) : String :=
  "The markup you provided was rejected by the parser. Trying a different parser or a " ++
    "different encoding may help.\n\nOriginal error(s) from parser:\n  AssertionError: " ++
    match rejection with
    | .unknownSection keyword => "unknown status keyword " ++ quoted keyword ++ " in marked section"
    | .namelessSection start => "expected name token at " ++ quoted start

/-! ## Searching -/

/-- Whether the character is an unaccented letter. -/
def isLetter (c : Char) : Bool := c.isAlpha

/-- The text before the first place where `matching` succeeds, and what it leaves
there. -/
def splitBefore? (matching : List Char → Option (List Char)) :
    List Char → Option (List Char × List Char)
  | [] => none
  | c :: rest =>
    match matching (c :: rest) with
    | some left => some ([], left)
    | none => (splitBefore? matching rest).map fun (before, left) => (c :: before, left)

/-- The text before the next `>` and the text after it. -/
def splitAtEnd? (text : List Char) : Option (List Char × List Char) :=
  splitBefore? (fun | '>' :: rest => some rest | _ => none) text

/-! ## Tags -/

/-- Whether the character ends the name of a tag. -/
def endsTagName (c : Char) : Bool :=
  c == '\t' || c == '\n' || c == '\r' || c == '\x0c' || c == ' ' || c == '/' || c == '>' ||
    c == '\x00'

/-- What follows blanks and slashes, apart from a slash before `>`. -/
def skipSeparators : List Char → List Char
  | [] => []
  | '/' :: '>' :: rest => '/' :: '>' :: rest
  | c :: rest => if isBlank c || c == '/' then skipSeparators rest else c :: rest

/-- Whether the name of an attribute may follow this character. -/
def opensAttribute (c : Char) : Bool := isBlank c || c == '\'' || c == '"' || c == '/'

/-- Whether the character is part of a value without quotes. -/
def isBarePart (c : Char) : Bool := c != '>' && !isBlank c

/-- The value after the name of an attribute, if there is one.  A quote that is not
closed does not open a value. -/
def readValue? (text : List Char) : Option (List Char × List Char) :=
  let start := text.dropWhile isBlank
  let signs := start.takeWhile (· == '=')
  let after := start.dropWhile (· == '=')
  let blanks := after.takeWhile isBlank
  let value := after.dropWhile isBlank
  if signs = [] then none
  else
    match value with
    | quote :: inner =>
      if quote = '\'' ∨ quote = '"' then
        match splitBefore? (fun | c :: rest => if c = quote then some rest else none | [] => none)
            inner with
        | some (content, rest) => some (content, rest)
        | none =>
          if blanks ≠ [] then some ([], value)
          else if signs.length < 2 then none
          else
            let run := '=' :: value
            some (run.takeWhile isBarePart, run.dropWhile isBarePart)
      else some (value.takeWhile isBarePart, value.dropWhile isBarePart)
    | [] => some ([], [])

/-- Whether the character is part of the name of an attribute, after its first. -/
def isAttributePart (c : Char) : Bool := !isBlank c && c != '/' && c != '=' && c != '>'

/-- The attributes at the start of a text that follows the character `previous`, and
the text after them. -/
def readAttributes (previous : Char) (text : List Char) :
    List (String × String) × List Char :=
  match text with
  | [] => ([], [])
  | first :: others =>
    if opensAttribute previous && !isBlank first && first != '/' && first != '>' then
      let name := first :: others.takeWhile isAttributePart
      let afterName := others.dropWhile isAttributePart
      let (value, afterValue) :=
        match readValue? afterName with
        | some (value, rest) => (Reference.unescape value, rest)
        | none => ([], afterName)
      if _h : (skipSeparators afterValue).length ≤ others.length then
        let taken := others.length + 1 - (skipSeparators afterValue).length
        let (more, left) :=
          readAttributes ((text.take taken).getLastD previous) (skipSeparators afterValue)
        ((String.ofList (lower name), String.ofList value) :: more, left)
      else ([], text)
    else ([], text)
termination_by text.length
decreasing_by simp +arith; exact _h

/-- The piece that an opening tag is, and what follows it; `text` begins after the
`<`. -/
def readOpening? (text : List Char) : Option (Piece × List Char) :=
  let name := text.takeWhile (!endsTagName ·)
  let afterName := text.dropWhile (!endsTagName ·)
  let start := skipSeparators afterName
  let previous := (text.take (text.length - start.length)).getLastD '<'
  let (attributes, left) := readAttributes previous start
  let rest :=
    if attributes = [] then afterName.dropWhile fun c => isBlank c || c == '/' else left
  let tag (selfClosed : Bool) : Piece :=
    .opening (String.ofList (lower name)) attributes selfClosed
  match left, rest with
  | '/' :: '>' :: _, '>' :: after => some (tag true, after)
  | _, '/' :: '>' :: after => some (tag true, after)
  | _, '>' :: after => some (tag false, after)
  | _, [] => none
  | _, c :: _ =>
    if isLetter c || c == '=' || c == '/' then none
    -- what cannot go on as a tag is text
    else some (.text ('<' :: text.take (text.length - rest.length)), rest)

/-- Whether the character is part of the name of a closing tag, after its first. -/
def isClosingPart (c : Char) : Bool :=
  c.isAlphanum || c == '-' || c == '.' || c == ':' || c == '_'

/-- The name of a well-formed closing tag, and what follows it; `text` begins after
the `</`. -/
def readClosingName? (text : List Char) : Option (List Char × List Char) :=
  match text.dropWhile isBlank with
  | first :: others =>
    if isLetter first then
      match (others.dropWhile isClosingPart).dropWhile isBlank with
      | '>' :: rest => some (first :: others.takeWhile isClosingPart, rest)
      | _ => none
    else none
  | [] => none

/-- The pieces that a closing tag is, and what follows it; `text` begins after the
`</`. -/
def readClosing? (text : List Char) : Option (List Piece × List Char) :=
  (splitAtEnd? text).map fun (content, rest) =>
    match readClosingName? text with
    | some (name, after) => ([.closing (String.ofList (lower name))], after)
    | none =>
      match text with
      | '>' :: _ => ([], rest)
      | first :: _ =>
        if isLetter first then
          ([.closing (String.ofList (lower (text.takeWhile (!endsTagName ·))))], rest)
        else ([.comment content], rest)
      | [] => ([], rest)

/-! ## Declarations -/

/-- What follows the end of a comment, if the text begins with it. -/
def commentEnd? : List Char → Option (List Char)
  | '-' :: '-' :: rest =>
    match rest.dropWhile isBlank with
    | '>' :: after => some after
    | _ => none
  | _ => none

/-- What follows the end of a marked section, if the text begins with it. -/
def sectionEnd? (brackets : Nat) (text : List Char) : Option (List Char) :=
  match brackets with
  | 0 =>
    match text with
    | '>' :: after => some after
    | _ => none
  | brackets + 1 =>
    match text with
    | ']' :: rest => sectionEnd? brackets (rest.dropWhile isBlank)
    | _ => none

/-- Whether the character is part of the keyword of a marked section. -/
def isKeywordPart (c : Char) : Bool := c.isAlphanum || c == '-' || c == '_' || c == '.'

/-- The marked section at the start of a text that begins after `<![`. -/
def readSection? (text : List Char) : Except Rejection (Option (Piece × List Char)) :=
  match text with
  | [] => .ok none
  | first :: _ =>
    if isLetter first then
      let keyword := text.takeWhile isKeywordPart
      let afterKeyword := text.dropWhile isKeywordPart
      if afterKeyword.dropWhile isBlank = [] then .ok none
      else
        let brackets? :=
          match String.ofList (lowerAscii keyword) with
          | "temp" | "cdata" | "ignore" | "include" | "rcdata" => some 2
          | "if" | "else" | "endif" => some 1
          | _ => none
        match brackets? with
        | none =>
          .error (.unknownSection (String.ofList (keyword ++ afterKeyword.takeWhile isBlank)))
        | some brackets =>
          .ok ((splitBefore? (sectionEnd? brackets) text).map fun (content, rest) =>
            (.declaration content, rest))
    else .error (.namelessSection (String.ofList (('<' :: '!' :: '[' :: text).take 20)))

/-- The declaration at the start of a text that begins after `<!`. -/
def readDeclaration? (text : List Char) : Except Rejection (Option (Piece × List Char)) :=
  match text with
  | '-' :: '-' :: rest =>
    .ok ((splitBefore? commentEnd? rest).map fun (content, after) => (.comment content, after))
  | '[' :: rest => readSection? rest
  | _ =>
    if String.ofList (lowerAscii (text.take 7)) = "doctype" then
      .ok ((splitAtEnd? text).map fun (content, after) => (.doctype (content.drop 8), after))
    else .ok ((splitAtEnd? text).map fun (content, after) => (.comment content, after))

/-! ## References in text -/

/-- The character that a numbered reference stands for, and what follows it; `text`
begins after `&#`. -/
def readNumbered? (text : List Char) : Option (Char × List Char) :=
  let finish (base : Nat) (digits rest : List Char) : Option (Char × List Char) :=
    match rest with
    | [] => none
    | ';' :: after => some (Reference.numbered (Reference.numberOf base digits), after)
    | c :: _ =>
      if Reference.isHexDigit c then none
      else some (Reference.numbered (Reference.numberOf base digits), rest)
  match text with
  | x :: more =>
    if x = 'x' ∨ x = 'X' then
      let digits := more.takeWhile Reference.isHexDigit
      if digits = [] then none else finish 16 digits (more.dropWhile Reference.isHexDigit)
    else
      let digits := text.takeWhile Char.isDigit
      if digits = [] then none else finish 10 digits (text.dropWhile Char.isDigit)
  | [] => none

/-- Whether the character is part of a name in a reference, after its first. -/
def isNamePart (c : Char) : Bool := c.isAlphanum || c == '-' || c == '.'

/-- What a named reference stands for, and what follows it; `text` begins after the
`&`.  At the end of the text a name ends before its last mark, as a name needs
something after it. -/
def readNamed? (text : List Char) : Option (List Char × List Char) :=
  match text with
  | [] => none
  | first :: others =>
    if isLetter first then
      let name := others.takeWhile isNamePart
      let rest := others.dropWhile isNamePart
      let stands (name : List Char) : List Char :=
        (Entity.named? (String.ofList name)).getD ('&' :: name)
      match rest with
      | ';' :: after => some (stands (first :: name), after)
      | _ :: _ => some (stands (first :: name), rest)
      | [] =>
        let kept := (name.reverse.dropWhile Char.isAlphanum).drop 1
        if name.all Char.isAlphanum then none
        else some (stands (first :: kept.reverse), name.drop kept.length)
    else none

/-! ## The scan -/

/-- How a scan goes on after something that begins with a mark. -/
inductive Advance where
  /-- These pieces, then the rest; `raw` names the element whose text is raw. -/
  | next (pieces : List Piece) (raw : Option (List Char)) (rest : List Char)
  /-- The piece is not complete. -/
  | incomplete
  /-- These pieces, but no more in this pass. -/
  | halt (pieces : List Piece) (rest : List Char)

/-- The elements whose text is raw. -/
def hasRawText (name : String) : Bool := name == "script" || name == "style"

/-- What follows the closing tag of an element with raw text, if the text begins with
it. -/
def rawEnd? (name text : List Char) : Option (List Char) :=
  match text with
  | '<' :: '/' :: rest =>
    let start := rest.dropWhile isBlank
    if lowerAscii (start.take name.length) = name then
      match (start.drop name.length).dropWhile isBlank with
      | '>' :: after => some after
      | _ => none
    else none
  | _ => none

/-- An incomplete piece, where there is one. -/
def orIncomplete : Option (Piece × List Char) → Advance
  | some (piece, rest) => .next [piece] none rest
  | none => .incomplete

/-- What begins with a `<`; `text` is what follows it. -/
def beginning (text : List Char) : Except Rejection Advance :=
  match text with
  | [] => .ok (.halt [] ['<'])
  | '/' :: rest =>
    .ok (match readClosing? rest with
      | some (pieces, after) => .next pieces none after
      | none => .incomplete)
  | '?' :: rest =>
    .ok (orIncomplete ((splitAtEnd? rest).map fun (content, after) =>
      (.instruction content, after)))
  | '!' :: rest => (readDeclaration? rest).map orIncomplete
  | c :: _ =>
    if isLetter c then
      .ok (match readOpening? text with
        | some (.opening name attributes selfClosed, after) =>
          .next [.opening name attributes selfClosed]
            (if !selfClosed && hasRawText name then some name.toList else none) after
        | other => orIncomplete other)
    else .ok (.next [.text ['<']] none text)

/-- What begins with an `&`; `text` is what follows it. -/
def reference (final : Bool) (text : List Char) : Advance :=
  match text with
  | '#' :: rest =>
    match readNumbered? rest with
    | some (c, after) => .next [.text [c]] none after
    | none => if ';' ∈ rest then .halt [.text ['&', '#']] rest else .halt [] ('&' :: text)
  | _ =>
    match readNamed? text with
    | some (found, after) => .next [.text found] none after
    | none =>
      match text with
      | [] => .halt [] ['&']
      | [c] => if isLetter c then .halt [] (if final then [c] else '&' :: text)
          else .next [.text ['&']] none text
      | c :: _ => if isLetter c then .halt [] ('&' :: text) else .next [.text ['&']] none text

/-- An incomplete piece as text: up to the next `>`, or else before the next `<`, or
else its first character.  `text` follows the `<` that it begins with. -/
def asText (text : List Char) : List Char × List Char :=
  match splitAtEnd? text with
  | some (content, rest) => ('<' :: content ++ ['>'], rest)
  | none =>
    if '<' ∈ text then ('<' :: text.takeWhile (· ≠ '<'), text.dropWhile (· ≠ '<'))
    else (['<'], text)

/-- What the text at a mark comes to, in the last pass or an earlier one. -/
def advance (final : Bool) (text : List Char) : Except Rejection Advance :=
  match text with
  | '&' :: rest => .ok (reference final rest)
  | _ =>
    (beginning (text.drop 1)).map fun outcome =>
      match outcome with
      | .incomplete =>
        if final then .next [.text (asText (text.drop 1)).1] none (asText (text.drop 1)).2
        else .halt [] text
      | other => other

/-- How far a pass has come. -/
structure Pass where
  /-- The element whose raw text is being read. -/
  raw : Option (List Char)
  rest : List Char

/-- The text as a piece, unless it is empty. -/
def textPiece (content : List Char) : List Piece := if content = [] then [] else [.text content]

/-- Reads pieces from a text as far as one pass gets. -/
def scan (final : Bool) (raw : Option (List Char)) (text : List Char) :
    Except Rejection (List Piece × Pass) :=
  match raw with
  | some name =>
    match splitBefore? (rawEnd? name) text with
    | none => .ok ([], ⟨raw, text⟩)
    | some (content, rest) =>
      if _h : rest.length < text.length then
        (scan final none rest).map fun (pieces, pass) =>
          (textPiece content ++ .closing (String.ofList name) :: pieces, pass)
      else .ok ([], ⟨raw, text⟩)
  | none =>
    let plain := text.takeWhile fun c => c ≠ '<' ∧ c ≠ '&'
    let marked := text.dropWhile fun c => c ≠ '<' ∧ c ≠ '&'
    if marked = [] then .ok (textPiece plain, ⟨none, []⟩)
    else
      match advance final marked with
      | .error rejection => .error rejection
      | .ok (.next pieces raw rest) =>
        if _h : rest.length < text.length then
          (scan final raw rest).map fun (more, pass) =>
            (textPiece plain ++ pieces ++ more, pass)
        else .ok (textPiece plain ++ pieces, ⟨raw, rest⟩)
      | .ok (.halt pieces rest) => .ok (textPiece plain ++ pieces, ⟨none, rest⟩)
      | .ok .incomplete => .ok (textPiece plain, ⟨none, marked⟩)
termination_by text.length

/-- The pieces of a text. -/
def piecesOf (text : List Char) : Except Rejection (List Piece) := do
  let (first, pass) ← scan false none text
  let (second, pass) ← scan true pass.raw pass.rest
  return first ++ second ++ if pass.raw = none then textPiece pass.rest else []

end Collate.Markup
