import LiquidityClient.Text.Hex
import LiquidityClient.Text.Scan

/-!
# Quoted text in TOML

Texts stand between single or triple quotes. In basic texts a backslash starts an escape, literal
texts are taken as they are; triple quotes let a text run over lines, drop a line end right behind
the opening quotes, and may have up to two more quotes in front of the closing ones. `write` picks
the first form that holds the text as it is : basic, literal, basic over lines, literal over lines;
a text that no form holds without escapes is basic.
-/

namespace LiquidityClient.Toml

/-- May the character stand in a comment? Tabs, and all but control characters. -/
def isPrintable (c : Char) : Bool :=
  c = '\t' || (32 ≤ c.toNat && c.toNat ≠ 127)

/-- Is the character a blank inside a line? -/
def isBlank (c : Char) : Bool :=
  c = ' ' || c = '\t'

/-- The rest behind a line end, if one comes next. -/
def newline? : List Char → Option (List Char)
  | '\n' :: rest => some rest
  | '\r' :: '\n' :: rest => some rest
  | _ => none

/-- The rest behind blanks and line ends. -/
def skipLines : List Char → List Char
  | '\n' :: rest => skipLines rest
  | '\r' :: '\n' :: rest => skipLines rest
  | c :: rest => if isBlank c then skipLines rest else c :: rest
  | [] => []

/-- The rest behind a line end that a backslash hides, with the blanks around it and the empty lines
behind it. -/
def continuation? (cs : List Char) : Option (List Char) :=
  (newline? (cs.dropWhile isBlank)).map skipLines

theorem length_skipLines (cs : List Char) : (skipLines cs).length ≤ cs.length := by
  fun_induction skipLines cs <;> grind

theorem length_newline? {cs rest : List Char} (h : newline? cs = some rest) :
    rest.length < cs.length := by
  unfold newline? at h
  split at h
  · obtain rfl := Option.some.inj h
    simp only [List.length_cons]; omega
  · obtain rfl := Option.some.inj h
    simp only [List.length_cons]; omega
  · cases h

theorem length_continuation? {cs rest : List Char} (h : continuation? cs = some rest) :
    rest.length < cs.length := by
  obtain ⟨behind, hline, rfl⟩ := Option.map_eq_some_iff.mp h
  have := length_newline? hline
  have := length_skipLines behind
  have := (List.dropWhile_sublist isBlank (l := cs)).length_le
  omega

namespace Quoted

/-- The mark of a basic text. -/
def basicMark : Char := '"'

/-- The mark of a literal text. -/
def literalMark : Char := Char.ofNat 39

/-- The letters behind a backslash that stand for one character each, and those characters. -/
def shortEscapes : List (Char × Char) :=
  [('b', Char.ofNat 8), ('t', '\t'), ('n', '\n'), ('f', Char.ofNat 12), ('r', '\r'),
    (basicMark, basicMark), ('\\', '\\')]

/-- The letters behind a backslash that start a character code, and the count of its digits. -/
def codeEscapes : List (Char × Nat) :=
  [('u', 4), ('U', 8)]

/-- The character that an escape stands for, given what follows the backslash, and the rest. -/
def escape? : List Char → Option (Char × List Char)
  | [] => none
  | c :: rest =>
    match shortEscapes.lookup c, codeEscapes.lookup c with
    | some d, _ => some (d, rest)
    | none, some count => Scan.escaped? count rest
    | none, none => none

theorem length_escape? {cs rest : List Char} {c : Char} (h : escape? cs = some (c, rest)) :
    rest.length < cs.length := by
  cases cs with
  | nil => cases h
  | cons d tail =>
    refine Nat.lt_succ_of_le ?_
    simp only [escape?] at h
    split at h
    · obtain ⟨-, rfl⟩ := Prod.mk.inj (Option.some.inj h)
      exact Nat.le_refl _
    · exact Scan.length_escaped? h
    · cases h

/-- A basic text up to its closing mark, and the rest. -/
def basic? (cs : List Char) : Option (List Char × List Char) :=
  match cs with
  | [] => none
  | c :: rest =>
    if c = basicMark then some ([], rest)
    else if c = '\\' then
      match _h : escape? rest with
      | some (d, rest') => (basic? rest').map fun (text, rest) => (d :: text, rest)
      | none => none
    else if isPrintable c then (basic? rest).map fun (text, rest) => (c :: text, rest)
    else none
termination_by cs.length
decreasing_by
  · have := length_escape? _h
    simp only [List.length_cons]; omega
  · simp

/-- A literal text up to its closing mark, and the rest. -/
def literal? : List Char → Option (List Char × List Char)
  | [] => none
  | c :: rest =>
    if c = literalMark then some ([], rest)
    else if isPrintable c then (literal? rest).map fun (text, rest) => (c :: text, rest)
    else none

/-- The quotes in front of the closing marks, and the rest behind them, if three marks come next. -/
def closing? (mark : Char) (cs : List Char) : Option (List Char × List Char) :=
  let count := (cs.takeWhile (· = mark)).length
  if 3 ≤ count then
    some (List.replicate (min count 5 - 3) mark, cs.drop (min count 5))
  else none

/-- A basic text of several lines up to its closing marks, and the rest. -/
def basicLines? (cs : List Char) : Option (List Char × List Char) :=
  match closing? basicMark cs with
  | some done => some done
  | none =>
    match cs with
    | [] => none
    | '\r' :: '\n' :: rest => (basicLines? rest).map fun (text, rest) => ('\n' :: text, rest)
    | c :: rest =>
      if c = '\\' then
        match _h : continuation? rest with
        | some rest' => basicLines? rest'
        | none =>
          match _h : escape? rest with
          | some (d, rest') => (basicLines? rest').map fun (text, rest) => (d :: text, rest)
          | none => none
      else if isPrintable c ∨ c = '\n' then
        (basicLines? rest).map fun (text, rest) => (c :: text, rest)
      else none
termination_by cs.length
decreasing_by
  · simp only [List.length_cons]; omega
  · have := length_continuation? _h
    simp only [List.length_cons]; omega
  · have := length_escape? _h
    simp only [List.length_cons]; omega
  · simp only [List.length_cons]; omega

/-- A literal text of several lines up to its closing marks, and the rest. -/
def literalLines? (cs : List Char) : Option (List Char × List Char) :=
  match closing? literalMark cs with
  | some done => some done
  | none =>
    match cs with
    | [] => none
    | '\r' :: '\n' :: rest => (literalLines? rest).map fun (text, rest) => ('\n' :: text, rest)
    | c :: rest =>
      if isPrintable c ∨ c = '\n' then
        (literalLines? rest).map fun (text, rest) => (c :: text, rest)
      else none

/-- The rest behind three marks, and behind the line end that may follow them. -/
def openingLines? (mark : Char) : List Char → Option (List Char)
  | a :: b :: c :: rest =>
    if a = mark ∧ b = mark ∧ c = mark then some ((newline? rest).getD rest) else none
  | _ => none

/-- A text in any of the four forms, and the rest. -/
def read? (cs : List Char) : Option (List Char × List Char) :=
  match openingLines? basicMark cs, openingLines? literalMark cs, cs with
  | some rest, _, _ => basicLines? rest
  | none, some rest, _ => literalLines? rest
  | none, none, c :: rest =>
    if c = basicMark then basic? rest else if c = literalMark then literal? rest else none
  | none, none, [] => none

/-! ## Writing -/

/-- The four forms of a text. -/
inductive Form where
  | basic
  | literal
  | basicLines
  | literalLines
  deriving DecidableEq, Repr

/-- Does a character stand `count` times in a row? -/
def hasRun (mark : Char) (count : Nat) : List Char → Bool
  | [] => false
  | c :: rest => (c :: rest).take count = List.replicate count mark || hasRun mark count rest

/-- Are there control characters, other than tabs and line ends? -/
def hasControl (text : List Char) : Bool :=
  text.any fun c => !isPrintable c && c != '\n'

/-- Does the form hold the text without escapes, other than those of tabs? -/
def Form.suits : Form → List Char → Bool
  | .basic, text =>
    !hasControl text && !text.contains '\\' && !text.contains '\n' && !text.contains basicMark
  | .literal, text => !hasControl text && !text.contains '\n' && !text.contains literalMark
  | .basicLines, text => !hasControl text && !text.contains '\\' && !hasRun basicMark 3 text
  | .literalLines, text => !hasControl text && !hasRun literalMark 3 text

/-- The form in which a text is written : the first that suits it, or else a basic one. -/
def Form.ofText (text : List Char) : Form :=
  match [Form.basic, .literal, .basicLines, .literalLines].find? fun form => form.suits text with
  | some form => form
  | none => if text.contains '\n' then .basicLines else .basic

/-- A character other than a quotation mark in a basic text; `lines` tells whether the text may run
over lines. -/
def escape (lines : Bool) (c : Char) : List Char :=
  let n := c.toNat
  if n = 8 then ['\\', 'b']
  else if n = 9 then ['\\', 't']
  else if n = 10 then if lines then ['\n'] else ['\\', 'n']
  else if n = 12 then ['\\', 'f']
  else if n = 13 then ['\\', 'r']
  else if c = '\\' then ['\\', '\\']
  else if n < 32 ∨ n = 127 then
    ['\\', 'u', '0', '0', (Hex.digit (n / 16)).toUpper, (Hex.digit (n % 16)).toUpper]
  else [c]

/-- The characters of a basic text behind `count` quotation marks in a row. Over lines two marks in
a row stand as they are, and each third one is escaped. -/
def writeBasic (lines : Bool) : Nat → List Char → List Char
  | _, [] => []
  | count, c :: rest =>
    if c = basicMark then
      if lines ∧ count < 2 then c :: writeBasic lines (count + 1) rest
      else '\\' :: c :: writeBasic lines 0 rest
    else escape lines c ++ writeBasic lines 0 rest

/-- Three marks, with a line end behind them if the text has one. -/
def openLines (mark : Char) (text : List Char) : List Char :=
  [mark, mark, mark] ++ if text.contains '\n' then ['\n'] else []

/-- A text in one of the forms. -/
def writeAs (text : List Char) : Form → List Char
  | .basic => basicMark :: writeBasic false 0 text ++ [basicMark]
  | .literal => literalMark :: text ++ [literalMark]
  | .basicLines =>
    openLines basicMark text ++ writeBasic true 0 text ++ [basicMark, basicMark, basicMark]
  | .literalLines => openLines literalMark text ++ text ++ [literalMark, literalMark, literalMark]

/-- A text between quotes. -/
def write (text : List Char) : List Char :=
  writeAs text (Form.ofText text)

end Quoted

end LiquidityClient.Toml
