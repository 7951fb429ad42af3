import Mathlib.Data.List.Basic

namespace PortableTpcc

/-!
# A fragment of the shell command language

How a POSIX shell cuts a line into tokens and reads them as lists of simple commands.  The tokenizer
goes through the bytes one at a time.  What lies outside the fragment (substitutions, pipes,
compound commands, here-documents, comments) is not parsed at all, so that a line which parses has
only the meaning that is given here.
-/

abbrev Bytes := List UInt8

instance : LawfulBEq Bytes :=
  inferInstance

/-- The bytes of an ASCII text. -/
def ascii (text : String) : Bytes :=
  text.toList.map fun c => c.toNat.toUInt8

namespace Shell

/-- A part of a word. -/
inductive Part where
  /-- A byte outside quotes. -/
  | plain (byte : UInt8)
  /-- A byte that quoting makes literal. -/
  | quoted (byte : UInt8)
  /-- The value of a parameter, inside double quotes or not. -/
  | parameter (name : Bytes) (inQuotes : Bool)
deriving Repr, DecidableEq

abbrev Word := List Part

inductive Token where
  | word (word : Word)
  | andIf
  | background
  | separator
  /-- A redirection, with the number in front of it. -/
  | redirect (fd : Bytes) (output : Bool)
deriving Repr, DecidableEq

/-- What a byte is to the tokenizer outside quotes. -/
inductive ByteClass where
  | singleQuote
  | doubleQuote
  | dollar
  | backslash
  | blank
  | separator
  | ampersand
  | less
  | greater
  | hash
  /-- A byte that begins something outside the fragment. -/
  | outside
  | ordinary
deriving Repr, DecidableEq

def classify (byte : UInt8) : ByteClass :=
  match Char.ofNat byte.toNat with
  | '\'' => .singleQuote
  | '"' => .doubleQuote
  | '$' => .dollar
  | '\\' => .backslash
  | ' ' | '\t' => .blank
  | '\n' | ';' => .separator
  | '&' => .ampersand
  | '<' => .less
  | '>' => .greater
  | '#' => .hash
  | '|' | '(' | ')' | '`' => .outside
  | _ => .ordinary

def isNameStart (byte : UInt8) : Bool :=
  let c := Char.ofNat byte.toNat
  ('A' ≤ c && c ≤ 'Z') || ('a' ≤ c && c ≤ 'z') || c = '_'

def isNameByte (byte : UInt8) : Bool :=
  let c := Char.ofNat byte.toNat
  isNameStart byte || ('0' ≤ c && c ≤ '9')

/-- Where the tokenizer is. -/
inductive Mode where
  | unquoted
  | single
  | double
  | escape (inQuotes : Bool)
  | dollar (inQuotes : Bool)
  | name (inQuotes : Bool) (sofar : Bytes)
  | ampersand
  | redirected
deriving Repr, DecidableEq

/-- The tokenizer: the word that is being read, and the tokens before it. -/
structure Lexer where
  mode : Mode
  word : Option Word
  tokens : List Token
deriving Repr, DecidableEq

namespace Lexer

def start : Lexer := ⟨.unquoted, none, []⟩

def push (lexer : Lexer) (part : Part) : Lexer :=
  { lexer with word := some (lexer.word.getD [] ++ [part]) }

def into (lexer : Lexer) (mode : Mode) : Lexer :=
  { lexer with mode }

/-- Begin a word if none is being read. -/
def open_ (lexer : Lexer) : Lexer :=
  { lexer with word := some (lexer.word.getD []) }

/-- End the word, if one is being read. -/
def flush (lexer : Lexer) : Lexer :=
  match lexer.word with
  | none => lexer
  | some word => { lexer with word := none, tokens := lexer.tokens ++ [.word word] }

def emit (lexer : Lexer) (token : Token) : Lexer :=
  { lexer.flush with tokens := lexer.flush.tokens ++ [token] }

/-- The digits of a word that is a number. -/
def number? : Word → Option Bytes
  | [] => some []
  | .plain byte :: rest => if 48 ≤ byte ∧ byte ≤ 57 then (byte :: ·) <$> number? rest else none
  | _ => none

/-- A redirection; digits right before it belong to it. -/
def redirect (lexer : Lexer) (output : Bool) : Lexer :=
  match (lexer.word.filter (· ≠ [])).bind number? with
  | some fd =>
    { lexer with
      mode := .redirected, word := none, tokens := lexer.tokens ++ [.redirect fd output] }
  | none => (lexer.emit (.redirect [] output)).into .redirected

def stepUnquoted (lexer : Lexer) (byte : UInt8) : Option Lexer :=
  match classify byte with
  | .singleQuote => some (lexer.open_.into .single)
  | .doubleQuote => some (lexer.open_.into .double)
  | .dollar => some (lexer.open_.into (.dollar false))
  | .backslash => some (lexer.into (.escape false))
  | .blank => some (lexer.flush.into .unquoted)
  | .separator => some ((lexer.emit .separator).into .unquoted)
  | .ampersand => some (lexer.flush.into .ampersand)
  | .less => some (lexer.redirect false)
  | .greater => some (lexer.redirect true)
  | .hash => if lexer.word = none then none else some ((lexer.push (.plain byte)).into .unquoted)
  | .outside => none
  | .ordinary => some ((lexer.push (.plain byte)).into .unquoted)

def stepDouble (lexer : Lexer) (byte : UInt8) : Option Lexer :=
  match classify byte with
  | .doubleQuote => some (lexer.into .unquoted)
  | .dollar => some (lexer.into (.dollar true))
  | .backslash => some (lexer.into (.escape true))
  | _ => if byte = 96 then none else some ((lexer.push (.quoted byte)).into .double)

/-- Go on in or outside double quotes. -/
def resume (lexer : Lexer) (inQuotes : Bool) (byte : UInt8) : Option Lexer :=
  if inQuotes then lexer.stepDouble byte else lexer.stepUnquoted byte

def back (inQuotes : Bool) : Mode :=
  if inQuotes then .double else .unquoted

def step (lexer : Lexer) (byte : UInt8) : Option Lexer :=
  match lexer.mode with
  | .unquoted => lexer.stepUnquoted byte
  | .single =>
    if byte = 39 then some (lexer.into .unquoted) else some (lexer.push (.quoted byte))
  | .double => lexer.stepDouble byte
  | .escape inQuotes =>
    if byte = 10 then
      some (lexer.into (back inQuotes))
    else if inQuotes ∧ classify byte ∉ [.dollar, .doubleQuote, .backslash] ∧ byte ≠ 96 then
      some (((lexer.push (.quoted 92)).push (.quoted byte)).into .double)
    else
      some ((lexer.push (.quoted byte)).into (back inQuotes))
  | .dollar inQuotes =>
    if isNameStart byte then
      some (lexer.into (.name inQuotes [byte]))
    else if byte = 33 then
      some ((lexer.push (.parameter [33] inQuotes)).into (back inQuotes))
    else
      none
  | .name inQuotes sofar =>
    if isNameByte byte then
      some (lexer.into (.name inQuotes (sofar ++ [byte])))
    else
      (lexer.push (.parameter sofar inQuotes)).resume inQuotes byte
  | .ampersand =>
    if byte = 38 then
      some ((lexer.emit .andIf).into .unquoted)
    else
      (lexer.emit .background).stepUnquoted byte
  | .redirected =>
    if byte ∈ ascii "<>&|" then none else lexer.stepUnquoted byte

/-- The tokens at the end of the line. -/
def finish (lexer : Lexer) : Option (List Token) :=
  match lexer.mode with
  | .unquoted | .redirected => some lexer.flush.tokens
  | .ampersand => some (lexer.emit .background).tokens
  | .name false sofar => some (lexer.push (.parameter sofar false)).flush.tokens
  | _ => none

/-- Read some bytes. -/
def feed (lexer : Lexer) (bytes : Bytes) : Option Lexer :=
  bytes.foldlM step lexer

end Lexer

/-- The tokens of a line. -/
def tokenize (line : Bytes) : Option (List Token) := do
  (← Lexer.start.feed line).finish

/-! ## Commands -/

structure Redirect where
  fd : Bytes
  output : Bool
  target : Word
deriving Repr, DecidableEq

structure SimpleCommand where
  assignments : List (Bytes × Word) := []
  words : List Word := []
  redirects : List Redirect := []
deriving Repr, DecidableEq

/-- Commands joined by `&&`, and whether the list runs in the background. -/
structure AndOrList where
  commands : List SimpleCommand
  background : Bool
deriving Repr, DecidableEq

/-- The bytes of a word without quotes and expansions. -/
def literal? : Word → Option Bytes
  | [] => some []
  | .plain byte :: rest => (byte :: ·) <$> literal? rest
  | _ => none

/-- The parts of a word before and behind its first unquoted `=`. -/
def assignment? (sofar : Bytes) : Word → Option (Bytes × Word)
  | .plain byte :: rest =>
    if byte = 61 then
      if sofar.head?.any isNameStart ∧ sofar.all isNameByte then some (sofar, rest) else none
    else
      assignment? (sofar ++ [byte]) rest
  | _ => none

/-- Words that begin or end a compound command. -/
def reserved : List Bytes :=
  ["!", "\x7b", "\x7d", "case", "do", "done", "elif", "else", "esac", "fi", "for", "if", "in",
    "then", "until", "while"].map ascii

def SimpleCommand.add (command : SimpleCommand) (word : Word) : Option SimpleCommand :=
  if command.words = [] then
    match assignment? [] word with
    | some assignment =>
      some { command with assignments := command.assignments ++ [assignment] }
    | none =>
      if (literal? word).any (· ∈ reserved) then none else some { command with words := [word] }
  else
    some { command with words := command.words ++ [word] }

/-- Read tokens behind some lists, the commands of an unfinished list and part of a command. -/
def parseTokens (done : List AndOrList) (joined : List SimpleCommand) (command : SimpleCommand) :
    List Token → Option (List AndOrList)
  | [] =>
    if command = {} then
      if joined = [] then some done else none
    else
      some (done ++ [⟨joined ++ [command], false⟩])
  | .andIf :: rest =>
    if command = {} then none else parseTokens done (joined ++ [command]) {} rest
  | .background :: rest =>
    if command = {} then none else parseTokens (done ++ [⟨joined ++ [command], true⟩]) [] {} rest
  | .separator :: rest =>
    if command = {} then none else parseTokens (done ++ [⟨joined ++ [command], false⟩]) [] {} rest
  | .redirect fd output :: .word target :: rest =>
    parseTokens done joined
      { command with redirects := command.redirects ++ [⟨fd, output, target⟩] } rest
  | .redirect _ _ :: _ => none
  | .word word :: rest =>
    match command.add word with
    | none => none
    | some command => parseTokens done joined command rest

/-- The lists of a line. -/
def parse (line : Bytes) : Option (List AndOrList) := do
  parseTokens [] [] {} (← tokenize line)

/-! ## Reading piece by piece -/

namespace Lexer

variable (tokens : List Token)

theorem feed_append (lexer : Lexer) (first second : Bytes) :
    lexer.feed (first ++ second) = (lexer.feed first).bind (·.feed second) :=
  List.foldlM_append

/-- Reading a piece leads from one state to another. -/
def Reads (lexer : Lexer) (bytes : Bytes) (after : Lexer) : Prop :=
  lexer.feed bytes = some after

theorem Reads.append {lexer middle after : Lexer} {first second : Bytes}
    (reads : lexer.Reads first middle) (then_ : middle.Reads second after) :
    lexer.Reads (first ++ second) after := by
  unfold Reads at *
  rw [feed_append, reads, Option.bind_some, then_]

theorem Reads.cons {lexer middle after : Lexer} {byte : UInt8} {rest : Bytes}
    (steps : lexer.step byte = some middle) (then_ : middle.Reads rest after) :
    lexer.Reads (byte :: rest) after := by
  unfold Reads feed at *
  rw [List.foldlM_cons, steps]
  exact then_

end Lexer

end Shell

end PortableTpcc
