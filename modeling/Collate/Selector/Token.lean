import Collate.Selector.Basic
import Collate.Text.Letter

/-!
# Words of selectors

The text of a selector is cut into words: tests of one element, combinators, and the
brackets that enclose selectors inside selectors.  Names may hold escapes, a
backslash before a character or before its code point.  Comments count as blanks.

What is no word ends the sequence.  It is an error only once a reader gets there.
-/

namespace Collate.Selector

/-! ## Blanks and comments -/

/-- What follows a blank, if the text begins with one; a line end of two characters is
one blank. -/
def afterBlank? : List Char → Option (List Char)
  | '\r' :: '\n' :: rest => some rest
  | c :: rest =>
    if c == ' ' || c == '\t' || c == '\n' || c == '\r' || c == '\x0c' then some rest else none
  | [] => none

/-- What follows the end of a comment. -/
def afterCommentBody? : List Char → Option (List Char)
  | '*' :: '/' :: rest => some rest
  | _ :: rest => afterCommentBody? rest
  | [] => none

/-- What follows a comment, if the text begins with one. -/
def afterComment? : List Char → Option (List Char)
  | '/' :: '*' :: rest => afterCommentBody? rest
  | _ => none

/-- What follows a blank or a comment, if the text begins with one. -/
def afterGap? (text : List Char) : Option (List Char) :=
  (afterBlank? text).orElse fun _ => afterComment? text

/-- What follows all blanks and comments. -/
def skipGaps (text : List Char) : List Char :=
  match afterGap? text with
  | some rest => if _h : rest.length < text.length then skipGaps rest else text
  | none => text
termination_by text.length

/-- Whether there is a blank among the blanks and comments at the start of a text. -/
def hasBlank (text : List Char) : Bool :=
  match afterBlank? text with
  | some _ => true
  | none =>
    match afterComment? text with
    | some rest => if _h : rest.length < text.length then hasBlank rest else false
    | none => false
termination_by text.length

/-! ## Escapes and names -/

/-- Whether the character is a hexadecimal digit. -/
def isHexDigit (c : Char) : Bool :=
  c.isDigit || ('a' ≤ c && c ≤ 'f') || ('A' ≤ c && c ≤ 'F')

/-- The value of a hexadecimal digit. -/
def hexValue (c : Char) : Nat :=
  if c.isDigit then c.toNat - 48 else if c.toNat < 97 then c.toNat - 55 else c.toNat - 87

/-- Whether the character is a line end. -/
def isLineEnd (c : Char) : Bool := c == '\n' || c == '\r' || c == '\x0c'

/-- The character with a code point; where there is none, a replacement. -/
def characterOf (n : Nat) : Char :=
  if n = 0 then '\uFFFD' else if h : n.isValidChar then Char.ofNatAux n h else '\uFFFD'

/-- What an escape stands for, and what follows it; `text` begins after the
backslash. -/
def readEscape? (text : List Char) : Option (Char × List Char) :=
  let digits := (text.takeWhile isHexDigit).take 6
  match text with
  | [] => some ('\uFFFD', [])
  | c :: rest =>
    if digits ≠ [] then
      let after := text.drop digits.length
      some (characterOf (digits.foldl (fun n d => 16 * n + hexValue d) 0),
        (afterBlank? after).getD after)
    else if isLineEnd c then (if text = ['\n'] then some ('\uFFFD', text) else none)
    else some (c, rest)

/-- Whether the character can begin a name. -/
def beginsName (c : Char) : Bool := c.isAlpha || c == '_' || 0xA0 ≤ c.toNat

/-- Whether the character can be inside a name. -/
def continuesName (c : Char) : Bool := beginsName c || c.isDigit || c == '-'

/-- The characters of a name, as far as `accepts` and escapes go. -/
def readNamePart (accepts : Char → Bool) (text : List Char) : List Char × List Char :=
  match text with
  | [] => ([], [])
  | '\\' :: rest =>
    match readEscape? rest with
    | some (c, after) =>
      if _h : after.length ≤ rest.length then
        let (more, left) := readNamePart accepts after
        (c :: more, left)
      else ([], text)
    | none => ([], text)
  | c :: rest =>
    if accepts c then
      let (more, left) := readNamePart accepts rest
      (c :: more, left)
    else ([], text)
termination_by text.length

/-- The name at the start of a text. -/
def readName? (text : List Char) : Option (List Char × List Char) :=
  let (dashes, start) :=
    match text with
    | '-' :: '-' :: rest => (['-', '-'], rest)
    | '-' :: rest => (['-'], rest)
    | _ => ([], text)
  let (first, afterFirst) := readNamePart beginsName start
  if dashes.length < 2 && first = [] then none
  else
    let (more, rest) := readNamePart continuesName afterFirst
    some (dashes ++ first ++ more, rest)

/-- What an escape inside quotes stands for, and what follows it; an escaped line end
is left out. -/
def escapedInQuotes? (text : List Char) : Option (List Char × List Char) :=
  if (text.take 1).any isLineEnd then (afterBlank? text).map fun after => ([], after)
  else (readEscape? text).map fun (c, after) => ([c], after)

/-- The text inside quotes, and what follows them; `text` begins after the opening
quote. -/
def readQuoted? (quote : Char) (text : List Char) : Option (List Char × List Char) :=
  match text with
  | [] => none
  | '\\' :: rest =>
    if rest = [] then none
    else
      match escapedInQuotes? rest with
      | none => none
      | some (escaped, after) =>
        if _h : after.length ≤ rest.length then
          (readQuoted? quote after).map fun (more, left) => (escaped ++ more, left)
        else none
  | c :: rest =>
    if c = quote then some ([], rest)
    else if isLineEnd c then none
    else (readQuoted? quote rest).map fun (more, left) => (c :: more, left)
termination_by text.length

/-- The value at the start of a text: a text in quotes, or a name. -/
def readValue? (text : List Char) : Option (List Char × List Char) :=
  match text with
  | '"' :: rest => readQuoted? '"' rest
  | '\'' :: rest => readQuoted? '\'' rest
  | _ => readName? text

/-- The values at the start of a text, separated by commas. -/
def readValues? (text : List Char) : Option (List (List Char) × List Char) :=
  match readValue? text with
  | none => none
  | some (value, rest) =>
    match skipGaps rest with
    | ',' :: more =>
      if _h : (skipGaps more).length < text.length then
        (readValues? (skipGaps more)).map fun (values, left) => (value :: values, left)
      else none
    | _ => some ([value], rest)
termination_by text.length

/-! ## Words -/

/-- The relation that a combinator puts between the elements on either side. -/
inductive Combinator where
  | inside
  | directlyInside
  | after
  | directlyAfter
  deriving DecidableEq

/-- A word of a selector. -/
inductive Token where
  | test (test : Test)
  /-- The test of a tag, which must come first. -/
  | tag (test : Test)
  /-- The name of a pseudo-class; `opens` says that a bracket follows. -/
  | pseudoClass (name : String) (opens : Bool)
  /-- A position among the siblings picked by the selector that follows. -/
  | nthAmong (position : Position)
  | combinator (combinator : Combinator)
  | comma
  | close
  /-- A word of a kind that is not supported, after so many characters. -/
  | unsupported (what : String) (position : Nat)

/-- A tag name with its name space, at the start of a text. -/
def readTag? (text : List Char) : Option (Test × List Char) :=
  let nameOrAny (text : List Char) : Option (List Char × List Char) :=
    match text with
    | '*' :: rest => some (['*'], rest)
    | _ => readName? text
  let first := nameOrAny text
  let spaced : Option (Test × List Char) :=
    match (match first with | some (space, rest) => (space, rest) | none => ([], text)) with
    | (space, '|' :: rest) =>
      (nameOrAny rest).map fun (name, left) =>
        (.tag (some (String.ofList space)) (String.ofList name), left)
    | _ => none
  match spaced with
  | some found => some found
  | none => first.map fun (name, rest) => (.tag none (String.ofList name), rest)

/-- The comparison sign at the start of a text; the flag says that it is negated. -/
def readOperator? : List Char → Option ((Operator × Bool) × List Char)
  | '=' :: rest => some ((.equal, false), rest)
  | '!' :: '=' :: rest => some ((.equal, true), rest)
  | '~' :: '=' :: rest => some ((.hasWord, false), rest)
  | '^' :: '=' :: rest => some ((.startsWith, false), rest)
  | '|' :: '=' :: rest => some ((.dashed, false), rest)
  | '*' :: '=' :: rest => some ((.contains, false), rest)
  | '$' :: '=' :: rest => some ((.endsWith, false), rest)
  | _ => none

/-- The name of an attribute, perhaps behind a name space. -/
def readAttributeName? (text : List Char) : Option (List Char × List Char) :=
  let space : Option (List Char) :=
    match text with
    | '*' :: rest => some rest
    | '|' :: _ => some text
    | _ => (readName? text).map Prod.snd
  match space with
  | some ('|' :: rest) =>
    match readName? rest with
    | some found => some found
    | none => readName? text
  | _ => readName? text

/-- Whether the letter says how case counts, and what follows it. -/
def readCase (text : List Char) : Option Bool × List Char :=
  match skipGaps text with
  | c :: rest =>
    if c = 'i' ∨ c = 'I' then (some true, rest)
    else if c = 's' ∨ c = 'S' then (some false, rest) else (none, text)
  | [] => (none, text)

/-- The test of an attribute; `text` begins after the opening bracket. -/
def readAttribute? (text : List Char) : Option (Test × List Char) :=
  match readAttributeName? (skipGaps text) with
  | none => none
  | some (name, rest) =>
    let closed (test : Test) (rest : List Char) : Option (Test × List Char) :=
      match skipGaps rest with
      | ']' :: after => some (test, after)
      | _ => none
    let called := String.ofList name
    match readOperator? (skipGaps rest) with
    | none => closed (.withAttribute called none) rest
    | some ((operator, negated), rest) =>
      match readValue? (skipGaps rest) with
      | none => none
      | some (value, rest) =>
        let (case, rest) := readCase rest
        let ignoresCase := case.getD (Text.lowerAscii name == "type".toList)
        let test := Test.withAttribute called (some { operator, value, ignoresCase })
        closed (if negated then .none_ [.ends [test]] else test) rest

/-- A number in decimal digits. -/
def numberOf (digits : List Char) : Int := (digits.foldl (fun n d => 10 * n + hexValue d) 0 : Nat)

/-- A sign and what follows it. -/
def readSign : List Char → Option Bool × List Char
  | '-' :: rest => (some true, rest)
  | '+' :: rest => (some false, rest)
  | rest => (none, rest)

/-- A formula such as `2n+1`, `even` or `3`: step, offset, and whether it repeats. -/
def readFormula? (text : List Char) : Option ((Int × Int × Bool) × List Char) :=
  let word := String.ofList (Text.lowerAscii (text.takeWhile Char.isAlpha))
  let (sign, unsigned) := readSign text
  let signed (negative : Bool) (n : Int) : Int := if negative then -n else n
  let digits := unsigned.takeWhile Char.isDigit
  let afterDigits := unsigned.drop digits.length
  let repeating (step : Int) (rest : List Char) : (Int × Int × Bool) × List Char :=
    match readSign (skipGaps rest) with
    | (some negative, after) =>
      let offset := (skipGaps after).takeWhile Char.isDigit
      if offset = [] then ((step, 0, true), rest)
      else ((step, signed negative (numberOf offset), true), (skipGaps after).drop offset.length)
    | (none, _) => ((step, 0, true), rest)
  match afterDigits with
  | n :: rest =>
    if n = 'n' ∨ n = 'N' then
      some (repeating (signed (sign.getD false) (if digits = [] then 1 else numberOf digits)) rest)
    else if digits ≠ [] then
      some ((signed (sign.getD false) (numberOf digits), 0, false), afterDigits)
    else if word.startsWith "even" then some ((2, 0, true), text.drop 4)
    else if word.startsWith "odd" then some ((2, 1, true), text.drop 3)
    else none
  | [] =>
    if digits = [] then none
    else some ((signed (sign.getD false) (numberOf digits), 0, false), [])

/-- The position that a pseudo-class with a formula describes. -/
def positionOf? (name : String) (formula : Int × Int × Bool) : Option Position :=
  let make (sameName fromEnd : Bool) : Option Position :=
    some { step := formula.1, offset := formula.2.1, repeats := formula.2.2, sameName, fromEnd }
  match name with
  | "nth-child" => make false false
  | "nth-last-child" => make false true
  | "nth-of-type" => make true false
  | "nth-last-of-type" => make true true
  | _ => none

/-- What follows the word `of` between blanks, if the text begins with it. -/
def afterOf? (text : List Char) : Option (List Char) :=
  match skipGaps text with
  | o :: f :: rest =>
    if (o = 'o' ∨ o = 'O') ∧ (f = 'f' ∨ f = 'F') ∧ hasBlank text ∧ hasBlank rest then
      some (skipGaps rest)
    else none
  | _ => none

/-- The argument of a pseudo-class that takes no selector; `text` begins after the
opening bracket and the blanks that follow it. -/
def readArgument? (name : String) (text : List Char) : Option (Token × List Char) :=
  let closed (token : Token) (rest : List Char) : Option (Token × List Char) :=
    match skipGaps rest with
    | ')' :: after => some (token, after)
    | _ => none
  match name with
  | "contains" =>
    (readValues? text).bind fun (values, rest) =>
      closed (.test (.holds (values.map String.ofList))) rest
  | "lang" => (readValues? text).bind fun (_, rest) => closed (.test .never) rest
  | "dir" =>
    let word := text.takeWhile Char.isAlpha
    if Text.lowerAscii word = "ltr".toList ∨ Text.lowerAscii word = "rtl".toList then
      closed (.test .never) (text.drop word.length)
    else none
  | _ =>
    (readFormula? text).bind fun (formula, rest) =>
      (positionOf? name formula).bind fun position =>
        match closed (.test (.nth position [])) rest, afterOf? rest with
        | some found, _ => some found
        | none, some after => if position.sameName then none else some (.nthAmong position, after)
        | none, none => none

/-- A pseudo-class; `text` begins after the colon. -/
def readPseudo? (position : Nat) (text : List Char) : Option (Token × List Char) :=
  match text with
  | ':' :: rest =>
    (readName? rest).map fun (_, after) => (.unsupported "Pseudo-element" position, after)
  | _ =>
    (readName? text).bind fun (name, rest) =>
      let called := String.ofList (Text.lowerAscii name)
      match rest with
      | '(' :: inner =>
        match readArgument? called (skipGaps inner) with
        | some found => some found
        | none => some (.pseudoClass called true, skipGaps inner)
      | _ => some (.pseudoClass called false, rest)

/-- What follows the character of a combinator or a comma, if the text begins with
one. -/
def readMark? : List Char → Option (Token × List Char)
  | ',' :: rest => some (.comma, rest)
  | '>' :: rest => some (.combinator .directlyInside, rest)
  | '+' :: rest => some (.combinator .directlyAfter, rest)
  | '~' :: rest => some (.combinator .after, rest)
  | _ => none

/-- A combinator: its own character, perhaps after blanks, or just blanks. -/
def readCombinator? (text : List Char) : Option (Token × List Char) :=
  match readMark? text with
  | some (token, rest) => some (token, skipGaps rest)
  | none =>
    match afterBlank? text with
    | some rest =>
      if (readMark? rest).isNone then some (.combinator .inside, skipGaps rest)
      else (readMark? rest).map fun (token, after) => (token, skipGaps after)
    | none =>
      match afterComment? text with
      | some rest =>
        if _h : rest.length < text.length then readCombinator? rest else none
      | none => none
termination_by text.length

/-- The word at the start of a text that begins after so many characters. -/
def readToken? (position : Nat) (text : List Char) : Option (Token × List Char) :=
  match skipGaps text with
  | ')' :: rest => some (.close, rest)
  | _ =>
    match text with
    | ':' :: rest => readPseudo? position rest
    | '&' :: rest => some (.test .scope, rest)
    | '#' :: rest => (readName? rest).map fun (name, after) => (.test (.id (String.ofList name)), after)
    | '.' :: rest =>
      (readName? rest).map fun (name, after) => (.test (.class_ (String.ofList name)), after)
    | '[' :: rest => (readAttribute? rest).map fun (test, after) => (.test test, after)
    | '@' :: p :: rest =>
      if p = 'P' ∨ p = 'p' then
        (readName? rest).map fun (_, after) => (.unsupported "At-rules" position, after)
      else none
    | _ =>
      match readTag? text with
      | some (test, rest) => some (.tag test, rest)
      | none => readCombinator? text

/-- The words of a text, and whether they take up all of it; `total` is the length of
the whole. -/
def tokensFrom (total : Nat) (text : List Char) : List Token × Bool :=
  if skipGaps text = [] then ([], true)
  else
    match readToken? (total - text.length) text with
    | none => ([], false)
    | some (token, rest) =>
      if _h : rest.length < text.length then
        let (more, complete) := tokensFrom total rest
        (token :: more, complete)
      else ([], false)
termination_by text.length

/-- The words of the text of a selector. -/
def tokensOf (text : String) : List Token × Bool :=
  let characters := text.toList.map fun c => if c = '\x00' then '\uFFFD' else c
  tokensFrom characters.length (skipGaps characters)

end Collate.Selector
