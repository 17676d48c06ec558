import LeaseBroker.Text.Numeral

/-!
# Texts and keys in TOML

Blanks, comments, the four kinds of strings, and dotted keys. A reader takes the text from where it
begins and gives back what it has not read.
-/

set_option autoImplicit false

namespace LeaseBroker.Toml

def isBlank (c : Char) : Bool := c = ' ' || c = '\t'

def isPlain (c : Char) : Bool := c = '\t' || (32 ≤ c.toNat && c.toNat ≠ 127)

def skipBlanks (s : List Char) : List Char := s.dropWhile isBlank

def newline? : List Char → Option (List Char)
  | '\n' :: rest => some rest
  | '\r' :: '\n' :: rest => some rest
  | _ => none

def endLine? (s : List Char) : Option (List Char) :=
  let s := skipBlanks s
  let s := match s with
    | '#' :: rest => rest.dropWhile isPlain
    | s => s
  if s.isEmpty then some [] else newline? s

/-- Skips blanks, line breaks and comments. Every comment has to end with its line. -/
def skipLines : Bool → List Char → Option (List Char)
  | inComment, [] => if inComment then none else some []
  | _, '\n' :: rest => skipLines false rest
  | _, '\r' :: '\n' :: rest => skipLines false rest
  | true, c :: rest => if isPlain c then skipLines true rest else none
  | false, c :: rest =>
    if c = '#' then skipLines true rest
    else if isBlank c then skipLines false rest
    else some (c :: rest)

def codeChar? (digits : List Char) : Option Char := do
  let code ← digits.foldlM (fun n c => (Text.hexDigit? c).map (n * 16 + ·)) 0
  if code.isValidChar then pure (Char.ofNat code) else none

def shortEscape? : Char → Option Char
  | 'b' => some '\x08'
  | 't' => some '\t'
  | 'n' => some '\n'
  | 'f' => some '\x0c'
  | 'r' => some '\r'
  | '"' => some '"'
  | '\\' => some '\\'
  | _ => none

def readBasic (done : List Char) : List Char → Option (String × List Char)
  | [] => none
  | '"' :: rest => some (String.ofList done.reverse, rest)
  | '\\' :: 'u' :: a :: b :: c :: d :: rest => do
    readBasic ((← codeChar? [a, b, c, d]) :: done) rest
  | '\\' :: 'U' :: a :: b :: c :: d :: e :: f :: g :: h :: rest => do
    readBasic ((← codeChar? [a, b, c, d, e, f, g, h]) :: done) rest
  | '\\' :: c :: rest => do readBasic ((← shortEscape? c) :: done) rest
  | c :: rest => if isPlain c then readBasic (c :: done) rest else none

def readLiteral (done : List Char) : List Char → Option (String × List Char)
  | [] => none
  | '\'' :: rest => some (String.ofList done.reverse, rest)
  | c :: rest => if isPlain c then readLiteral (c :: done) rest else none

/-- The end of a string in three quotes, which may have two more quotes in front. -/
def closing (quote : Char) (done rest : List Char) : String × List Char :=
  match rest with
  | a :: b :: after =>
    if a = quote ∧ b = quote then (String.ofList (b :: a :: done).reverse, after)
    else if a = quote then (String.ofList (a :: done).reverse, b :: after)
    else (String.ofList done.reverse, rest)
  | [a] =>
    if a = quote then (String.ofList (a :: done).reverse, [])
    else (String.ofList done.reverse, rest)
  | [] => (String.ofList done.reverse, [])

/-- Reads the rest of a string in three quotes. A backslash at the end of a line skips the blanks
and line breaks after it, which is what `skipping` says. -/
def readMultiBasic (skipping : Bool) (done : List Char) : List Char → Option (String × List Char)
  | [] => none
  | '\n' :: rest => readMultiBasic skipping (if skipping then done else '\n' :: done) rest
  | '\r' :: '\n' :: rest => readMultiBasic skipping (if skipping then done else '\n' :: done) rest
  | '"' :: '"' :: '"' :: rest => some (closing '"' done rest)
  | '\\' :: 'u' :: a :: b :: c :: d :: rest => do
    readMultiBasic false ((← codeChar? [a, b, c, d]) :: done) rest
  | '\\' :: 'U' :: a :: b :: c :: d :: e :: f :: g :: h :: rest => do
    readMultiBasic false ((← codeChar? [a, b, c, d, e, f, g, h]) :: done) rest
  | '\\' :: c :: rest =>
    if (newline? (skipBlanks (c :: rest))).isSome then readMultiBasic true done (c :: rest)
    else do readMultiBasic false ((← shortEscape? c) :: done) rest
  | c :: rest =>
    if skipping && isBlank c then readMultiBasic true done rest
    else if isPlain c && c ≠ '\\' then readMultiBasic false (c :: done) rest
    else none

def readMultiLiteral (done : List Char) : List Char → Option (String × List Char)
  | [] => none
  | '\n' :: rest => readMultiLiteral ('\n' :: done) rest
  | '\r' :: '\n' :: rest => readMultiLiteral ('\n' :: done) rest
  | '\'' :: '\'' :: '\'' :: rest => some (closing '\'' done rest)
  | c :: rest => if isPlain c then readMultiLiteral (c :: done) rest else none

def dropNewline (s : List Char) : List Char := (newline? s).getD s

def readString : List Char → Option (String × List Char)
  | '"' :: '"' :: '"' :: rest => readMultiBasic false [] (dropNewline rest)
  | '\'' :: '\'' :: '\'' :: rest => readMultiLiteral [] (dropNewline rest)
  | '"' :: rest => readBasic [] rest
  | '\'' :: rest => readLiteral [] rest
  | _ => none

def isBareKeyChar (c : Char) : Bool := c.isAlphanum || c = '_' || c = '-'

def readName : List Char → Option (String × List Char)
  | '"' :: rest => readBasic [] rest
  | '\'' :: rest => readLiteral [] rest
  | s =>
    match s.takeWhile isBareKeyChar with
    | [] => none
    | name => some (String.ofList name, s.dropWhile isBareKeyChar)

/-- Reads a key of at most so many names, with the blanks around it. The last name is separate. -/
def readKey : Nat → List Char → Option (List String × String × List Char)
  | 0, _ => none
  | limit + 1, s => do
    let (name, rest) ← readName (skipBlanks s)
    match skipBlanks rest with
    | '.' :: rest =>
      let (path, last, rest) ← readKey limit rest
      pure (name :: path, last, rest)
    | rest => pure ([], name, rest)

/-- How many names a key may have, and how many arrays and inline tables may be nested. -/
def depthLimit : Nat := 79

end LeaseBroker.Toml
