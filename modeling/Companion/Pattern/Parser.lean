import Companion.Pattern.Syntax

/-!
# The written form of patterns

Literals, `.`, `^` and `$`, alternatives, groups `(…)` and `(?:…)`, the flags `i`, `m`, `s`, `R` and
`U` as `(?i)`, `(?-i)` or `(?i:…)`, sets in brackets, the escapes `\d \w \s \b` and their negations,
`\A \z`, `\< \>` for the start and the end of a word, the usual control escapes, characters by their
number, escaped punctuation, and the repetitions `* + ? {m} {m,} {m,n}`, each perhaps with a
question mark behind it. Sets have ranges, named classes of ASCII characters and sets within them;
`&&` stands for their intersection, `--` for their difference and `~~` for the symmetric one.

Patterns with Unicode properties, named groups, word boundaries in braces, or the flags `u` and `x`
are refused. The size of a pattern has no bound.

A reader returns what it read and the rest of the text. A place is told by the number of
characters from it to the end; `Source.column` turns it into a column.
-/

namespace Companion.Regex.Parser

/-- The flags in force. -/
structure Flags where
  ignoresCase : Bool := false
  multiLine : Bool := false
  dotMatchesNewline : Bool := false
  carriageReturns : Bool := false

/-- The length of the pattern being read. -/
abbrev Source := Nat

/-- What a reader read, and the text behind it. -/
abbrev Reading (α : Type) := α × List Char

/-- The column at which the rest of the text starts. -/
def Source.column (source : Source) (rest : List Char) : Nat := source - rest.length

/-- A fault from one place to another. -/
def fail {α : Type} (source : Source) (fault : PatternFault) (start stop : List Char) :
    Except PatternError α :=
  .error { fault, start := source.column start, stop := source.column stop }

/-- A fault at one place. -/
def failAt {α : Type} (source : Source) (fault : PatternFault) (place : List Char) :
    Except PatternError α :=
  fail source fault place place

/-! ### Escapes -/

/-- What an escape stands for. -/
inductive Escape where
  | literal (c : Char)
  | named (c : CharClass) (negated : Bool)
  | assertion (a : Assertion)

/-- ASCII characters other than letters, digits and angle brackets stand for themselves behind
a backslash. -/
def isPunctuation (c : Char) : Bool :=
  c.toNat < 128 && !c.isAlphanum && c != '<' && c != '>'

def escapeOf? : Char → Option Escape
  | 'd' => some (.named .digit false)
  | 'D' => some (.named .digit true)
  | 's' => some (.named .blank false)
  | 'S' => some (.named .blank true)
  | 'w' => some (.named .word false)
  | 'W' => some (.named .word true)
  | 'b' => some (.assertion (.wordBoundary false))
  | 'B' => some (.assertion (.wordBoundary true))
  | '<' => some (.assertion .wordStart)
  | '>' => some (.assertion .wordEnd)
  | 'A' => some (.assertion .textStart)
  | 'z' => some (.assertion .textEnd)
  | 'a' => some (.literal '\x07')
  | 'f' => some (.literal '\x0c')
  | 't' => some (.literal '\t')
  | 'n' => some (.literal '\n')
  | 'r' => some (.literal '\r')
  | 'v' => some (.literal '\x0b')
  | c => if isPunctuation c then some (.literal c) else none

/-- The value of a hexadecimal digit, of either case. -/
def hexDigit? (c : Char) : Option Nat :=
  if c.isDigit then some (c.toNat - '0'.toNat)
  else if 'a' ≤ c ∧ c ≤ 'f' then some (c.toNat - 'a'.toNat + 10)
  else if 'A' ≤ c ∧ c ≤ 'F' then some (c.toNat - 'A'.toNat + 10)
  else none

/-- The character with a number, which stands between two places. -/
def numbered (source : Source) (n : Nat) (start stop : List Char) : Except PatternError Char :=
  if n.isValidChar then .ok (Char.ofNat n) else fail source .hexInvalid start stop

/-- A number of so many hexadecimal digits. -/
def hexDigits (source : Source) : Nat → Nat → List Char → Except PatternError (Reading Nat)
  | 0, n, rest => .ok (n, rest)
  | _ + 1, _, [] => failAt source .escapeUnfinished []
  | count + 1, n, s@(c :: rest) =>
    match hexDigit? c with
    | some digit => hexDigits source count (n * 16 + digit) rest
    | none => fail source .hexDigitInvalid s rest

/-- A number in hexadecimal digits up to a brace, which was opened at `brace`. -/
def bracedHex (source : Source) (brace : List Char) (n : Nat) :
    List Char → Except PatternError (Reading Nat)
  | [] => fail source .escapeUnfinished brace []
  | s@(c :: rest) =>
    if c == '\x7d' then .ok (n, s)
    else
      match hexDigit? c with
      | some digit => bracedHex source brace (n * 16 + digit) rest
      | none => fail source .hexDigitInvalid s rest

/-- A character by its number, with so many digits unless they stand in braces. -/
def hexCharacter (source : Source) (count : Nat) (s : List Char) :
    Except PatternError (Reading Char) := do
  match s with
  | '\x7b' :: digits =>
    let (n, behind) ← bracedHex source s 0 digits
    let rest := behind.drop 1
    if behind.length == digits.length then fail source .hexEmpty s rest
    else return (← numbered source n digits behind, rest)
  | _ =>
    let (n, rest) ← hexDigits source count 0 s
    return (← numbered source n s rest, rest)

/-- The digits of a character by its number, by the letter of its escape. -/
def hexLength? : Char → Option Nat
  | 'x' => some 2
  | 'u' => some 4
  | 'U' => some 8
  | _ => none

/-- An escape, from its backslash on. -/
def escape (source : Source) (s : List Char) : Except PatternError (Reading Escape) :=
  match s with
  | _ :: c :: rest =>
    match hexLength? c with
    | some count => (hexCharacter source count rest).map fun (c, rest) => (.literal c, rest)
    | none =>
      match escapeOf? c with
      | some e => .ok (e, rest)
      | none =>
        fail source (if c.isDigit then .backreference else .escapeUnrecognized) s rest
  | _ => fail source .escapeUnfinished s []

/-! ### Sets in brackets -/

/-- One end of a range, or a class. -/
def setItem (source : Source) : List Char → Except PatternError (Reading Escape)
  | s@('\\' :: _) => escape source s
  | c :: rest => .ok (.literal c, rest)
  | [] => failAt source .classUnclosed []

/-- What an escape between two places stands for in a set. -/
def Escape.toSet (source : Source) (start stop : List Char) : Escape → Except PatternError CharSet
  | literal c => .ok (.single c)
  | named k negated => .ok (.negatedIf negated (.named k))
  | assertion _ => fail source .classEscapeInvalid start stop

/-- An escape between two places as one end of a range. -/
def Escape.toEnd (source : Source) (start stop : List Char) : Escape → Except PatternError Char
  | literal c => .ok c
  | named .. | assertion _ => fail source .classRangeLiteral start stop

/-- A character, a range or a class of a set. `unclosed` is the fault to report when the closing
bracket of the set is missing. -/
def setRange (source : Source) (unclosed : PatternError) (s : List Char) :
    Except PatternError (Reading CharSet) := do
  let (first, rest) ← setItem source s
  match rest with
  | [] | ['-'] => .error unclosed
  | '-' :: stop@(c :: _) =>
    if c == ']' || c == '-' then return (← first.toSet source s rest, rest)
    else
      let (second, rest') ← setItem source stop
      let least ← first.toEnd source s rest
      let greatest ← second.toEnd source stop rest'
      if least ≤ greatest then return (.range least greatest, rest')
      else fail source .classRangeInvalid s rest'
  | _ => return (← first.toSet source s rest, rest)

/-- The ranges of a named class of ASCII characters. -/
def asciiRanges? : String → Option (List (Char × Char))
  | "alnum" => some [('0', '9'), ('A', 'Z'), ('a', 'z')]
  | "alpha" => some [('A', 'Z'), ('a', 'z')]
  | "ascii" => some [('\x00', '\x7f')]
  | "blank" => some [('\t', '\t'), (' ', ' ')]
  | "cntrl" => some [('\x00', '\x1f'), ('\x7f', '\x7f')]
  | "digit" => some [('0', '9')]
  | "graph" => some [('!', '~')]
  | "lower" => some [('a', 'z')]
  | "print" => some [(' ', '~')]
  | "punct" => some [('!', '/'), (':', '@'), ('[', '\x60'), ('\x7b', '~')]
  | "space" => some [('\t', '\r'), (' ', ' ')]
  | "upper" => some [('A', 'Z')]
  | "word" => some [('0', '9'), ('A', 'Z'), ('_', '_'), ('a', 'z')]
  | "xdigit" => some [('0', '9'), ('A', 'F'), ('a', 'f')]
  | _ => none

/-- A named class of ASCII characters, as in `[:alpha:]`, behind its opening bracket. -/
def asciiClass? : List Char → Option (Reading CharSet)
  | ':' :: rest => do
    let negated := rest.head? == some '^'
    let rest := if negated then rest.drop 1 else rest
    match rest.dropWhile (· != ':') with
    | ':' :: ']' :: behind =>
      let ranges ← asciiRanges? (String.ofList (rest.takeWhile (· != ':')))
      let set := ranges.foldl (fun s (least, greatest) => s.union (.range least greatest)) .none
      return (.negatedIf negated set, behind)
    | _ => none
  | _ => none

/-- The operation between sets that two characters write. -/
def operationOf? : Char → Char → Option SetOperation
  | '&', '&' => some .intersection
  | '-', '-' => some .difference
  | '~', '~' => some .symmetricDifference
  | _, _ => none

/-- What is known of a set behind the characters that only its start may have: whether it is
negated, the literals read, the text behind them, and the fault to report when the closing bracket
is missing. -/
structure SetStart where
  negated : Bool
  literals : CharSet
  rest : List Char
  unclosed : PatternError

/-- The start of a set, behind its opening bracket at `start`. A dash or else a closing bracket
stands for itself there. -/
def setStart (source : Source) (start rest : List Char) : SetStart :=
  let negated := rest.head? == some '^'
  let rest := if negated then rest.drop 1 else rest
  let behind := rest.dropWhile (· == '-')
  let unclosed (stop : List Char) : PatternError :=
    { fault := .classUnclosed, start := source.column start, stop := source.column stop }
  if rest.head? == some '-' then
    ⟨negated, .single '-', behind, unclosed (if behind.isEmpty then start else behind)⟩
  else if rest.head? == some ']' then
    ⟨negated, .single ']', rest.drop 1, unclosed (rest.drop 1)⟩
  else ⟨negated, .none, rest, unclosed rest⟩

/-- A set up to its closing bracket, within so many steps. `items` was read behind the last
operation, and `combine` puts it together with what stands in front of that. -/
def setItems (source : Source) (ignoresCase : Bool) (unclosed : PatternError) :
    Nat → (CharSet → CharSet) → CharSet → List Char → Except PatternError (Reading CharSet)
  | 0, _, _, _ | _ + 1, _, _, [] => .error unclosed
  | _ + 1, combine, items, ']' :: rest => .ok (combine items, rest)
  | steps + 1, combine, items, s@(c :: rest) =>
    let more (set : CharSet) (rest : List Char) :=
      setItems source ignoresCase unclosed steps combine (items.union set) rest
    if c == '[' then
      match asciiClass? rest with
      | some (set, rest) => more set rest
      | none => do
        let inner := setStart source s rest
        let (set, rest) ←
          setItems source ignoresCase inner.unclosed steps id inner.literals inner.rest
        more (.negatedIf inner.negated (set.anyCaseIf ignoresCase)) rest
    else
      match rest.head?.bind (operationOf? c) with
      | some operation =>
        let first := (combine items).anyCaseIf ignoresCase
        let combine (second : CharSet) :=
          .combined operation first (second.anyCaseIf ignoresCase)
        setItems source ignoresCase unclosed steps combine .none (rest.drop 1)
      | none => do
        let (set, rest) ← setRange source unclosed s
        more set rest

/-- A set, behind its opening bracket at `start`. -/
def set (source : Source) (start rest : List Char) (ignoresCase : Bool) :
    Except PatternError (Reading CharSet) := do
  let s := setStart source start rest
  let (set, rest) ←
    setItems source ignoresCase s.unclosed (s.rest.length + 1) id s.literals s.rest
  return (.negatedIf s.negated (set.anyCaseIf ignoresCase), rest)

/-! ### Repetitions -/

/-- A decimal number with blanks around it. -/
def decimal (source : Source) (s : List Char) : Except PatternError (Reading Nat) :=
  let s := s.dropWhile Text.isBlank
  let digits := s.takeWhile Char.isDigit
  let rest := s.dropWhile Char.isDigit
  if digits.isEmpty then failAt source .repetitionCountEmpty s
  else
    let n := digits.foldl (fun n c => n * 10 + (c.toNat - '0'.toNat)) 0
    if n < 4294967296 then .ok (n, rest.dropWhile Text.isBlank)
    else fail source .decimalInvalid s rest

/-- The text behind the question mark of a repetition that prefers fewer rounds. -/
def skipLazy : List Char → List Char
  | '?' :: rest => rest
  | rest => rest

/-- The bounds of a counted repetition, from its opening brace on. -/
def counted (source : Source) (s : List Char) :
    Except PatternError (Reading (Nat × Option Nat)) := do
  let rest := s.drop 1
  if rest.isEmpty then fail source .repetitionUnclosed s []
  else
    match decimal source rest with
    | .error e => .error e
    | .ok (least, rest) =>
      let (bounds, rest) ←
        match rest with
        | [] => fail source .repetitionUnclosed s []
        | [','] => fail source .repetitionUnclosed s []
        | ',' :: '\x7d' :: rest => pure ((least, none), '\x7d' :: rest)
        | ',' :: rest => do
          let (most, rest) ← decimal source rest
          pure ((least, some most), rest)
        | rest => pure ((least, some least), rest)
      match rest with
      | '\x7d' :: rest =>
        let rest := skipLazy rest
        if bounds.2.all (bounds.1 ≤ ·) then return (bounds, rest)
        else fail source .repetitionCountInvalid s rest
      | _ => fail source .repetitionUnclosed s rest

/-! ### Groups and alternatives -/

/-- A flag switched on or off. That more or fewer rounds are preferred does not change what is
found. -/
def Flags.set? (f : Flags) (switch : Bool) : Char → Option Flags
  | 'i' => some { f with ignoresCase := switch }
  | 'm' => some { f with multiLine := switch }
  | 's' => some { f with dotMatchesNewline := switch }
  | 'R' => some { f with carriageReturns := switch }
  | 'U' => some f
  | _ => none

/-- The flags of a group, up to the colon or parenthesis behind them. Behind a dash flags are
switched off. Flags and the dash come once; `seen` has those that came, the last one first, each
with its place. -/
def flags (source : Source) (seen : List (Char × List Char)) (f : Flags) :
    List Char → Except PatternError (Reading Flags)
  | [] => failAt source .flagUnfinished []
  | s@(c :: rest) =>
    if c == ':' || c == ')' then
      match seen.head? with
      | some ('-', place) => fail source .flagDanglingNegation place (place.drop 1)
      | _ => .ok (f, s)
    else
      match seen.find? (·.1 == c) with
      | some (_, place) =>
        .error ⟨if c == '-' then .flagNegationRepeated else .flagDuplicate,
          source.column s, source.column rest, some (source.column place)⟩
      | none =>
        let switch := !seen.any (·.1 == '-')
        match if c == '-' then some f else f.set? switch c with
        | some f => flags source ((c, s) :: seen) f rest
        | none => fail source .flagUnrecognized s rest

/-- The pieces of a sequence, last first, as one pattern. -/
def sequence (pieces : List Regex) : Regex :=
  match pieces with
  | [] => .empty
  | last :: before => before.foldl (fun r piece => .seq piece r) last

/-- Alternatives, last first, as one pattern. -/
def alternatives (last : Regex) (before : List Regex) : Regex :=
  before.foldl (fun r piece => .alt piece r) last

/-- A character that stands for itself. -/
def literal (f : Flags) (c : Char) : Regex :=
  .char ((CharSet.single c).anyCaseIf f.ignoresCase)

/-- Any character, or any but those that end a line. -/
def anyChar (f : Flags) : Regex :=
  .char (.complement
    (if f.dotMatchesNewline then .none
    else if f.carriageReturns then .union (.single '\n') (.single '\r')
    else .single '\n'))

/-- What is asked of the start of the text or, perhaps, of a line. -/
def Flags.start (f : Flags) : Regex :=
  .assertion (if f.multiLine then .lineStart f.carriageReturns else .textStart)

/-- What is asked of the end of the text or, perhaps, of a line. -/
def Flags.stop (f : Flags) : Regex :=
  .assertion (if f.multiLine then .lineEnd f.carriageReturns else .textEnd)

/-- What an escape matches outside of a set. -/
def ofEscape (f : Flags) : Escape → Regex
  | .literal c => literal f c
  | .named k negated => .char (.negatedIf negated (.named k))
  | .assertion a => .assertion a

/-- What follows the group that was opened at `start`, once its inside was read. -/
def closeGroup (source : Source) (start : List Char)
    (next : Regex → List Char → Except PatternError (Reading Regex)) :
    Except PatternError (Reading Regex) → Except PatternError (Reading Regex)
  | .error e => .error e
  | .ok (r, ')' :: rest) => next r rest
  | .ok _ => fail source .groupUnclosed start (start.drop 1)

/-- Read alternatives up to a closing parenthesis or the end, within so many steps. `pieces`
are those of the sequence at hand, last first, and `before` the alternatives in front of it;
`repeatable` tells whether a repetition may follow. -/
def body (source : Source) :
    Nat → Flags → List Regex → List Regex → Bool → List Char → Except PatternError (Reading Regex)
  | 0, _, _, _, _, rest => failAt source .groupUnclosed rest
  | steps + 1, f, before, pieces, repeatable, s =>
    let next (piece : Regex) (rest : List Char) :=
      body source steps f before (piece :: pieces) true rest
    let repeated (least : Nat) (most : Option Nat) (rest : List Char) :=
      match pieces with
      | piece :: pieces =>
        if repeatable then
          body source steps f before (.repetition piece least most :: pieces) true rest
        else failAt source .repetitionMissing s
      | [] => failAt source .repetitionMissing s
    match s with
    | [] | ')' :: _ => .ok (alternatives (sequence pieces) before, s)
    | '|' :: rest => body source steps f (sequence pieces :: before) [] false rest
    | '*' :: rest => repeated 0 none (skipLazy rest)
    | '+' :: rest => repeated 1 none (skipLazy rest)
    | '?' :: rest => repeated 0 (some 1) (skipLazy rest)
    | '\x7b' :: _ =>
      if pieces.isEmpty || !repeatable then failAt source .repetitionMissing s
      else
        match counted source s with
        | .error e => .error e
        | .ok ((least, most), rest) => repeated least most rest
    | '.' :: rest => next (anyChar f) rest
    | '^' :: rest => next f.start rest
    | '$' :: rest => next f.stop rest
    | '[' :: rest =>
      match set source s rest f.ignoresCase with
      | .error e => .error e
      | .ok (chars, rest) => next (.char chars) rest
    | '\\' :: _ =>
      match escape source s with
      | .error e => .error e
      | .ok (e, rest) => next (ofEscape f e) rest
    | '(' :: '?' :: '=' :: rest | '(' :: '?' :: '!' :: rest
    | '(' :: '?' :: '<' :: '=' :: rest | '(' :: '?' :: '<' :: '!' :: rest =>
      fail source .lookAround s rest
    | ['(', '?'] => fail source .groupUnclosed s ['?']
    | '(' :: '?' :: rest =>
      match flags source [] f rest with
      | .error e => .error e
      | .ok (f', ':' :: inner) =>
        closeGroup source s next (body source steps f' [] [] false inner)
      | .ok (f', rest') =>
        if rest'.length == rest.length then failAt source .repetitionMissing (s.drop 1)
        else body source steps f' before pieces false (rest'.drop 1)
    | '(' :: rest => closeGroup source s next (body source steps f [] [] false rest)
    | c :: rest => next (literal f c) rest

end Parser

/-- Read the written form of a pattern. -/
def parse (pattern : String) : Except PatternError Regex :=
  let s := pattern.toList
  match Parser.body s.length (s.length + 1) {} [] [] false s with
  | .error e => .error e
  | .ok (r, []) => .ok r
  | .ok (_, rest) => Parser.fail s.length .groupUnopened rest (rest.drop 1)

end Companion.Regex
