import PortableTpcc.ShellLanguage

namespace PortableTpcc

namespace Remote

/-!
# Command lines for a remote shell

`ssh.go` builds the lines that a remote shell runs.  A Go string is a list of bytes; `filepath.Rel`
is given.
-/

open Shell

/-- `shellQuote`. -/
def shellQuote (s : Bytes) : Bytes :=
  ascii "'" ++ s.flatMap (fun byte => if byte = 39 then ascii "'\"'\"'" else [byte]) ++ ascii "'"

/-- `remotePathExpr`. -/
def remotePathExpr (p : Bytes) : Bytes :=
  if p = ascii "~" then
    ascii "\"$HOME\""
  else if ascii "~/" <+: p then
    ascii "\"$HOME\"/" ++ shellQuote (p.drop 2)
  else
    shellQuote p

/-- `ValidEnvName`. -/
def validEnvName : Bytes → Bool
  | [] => false
  | first :: rest => isNameStart first && rest.all isNameByte

/-- One name in `filepath.Clean`, behind the names that are kept, the last one first. -/
def cleanName (rooted : Bool) (kept : List Bytes) (name : Bytes) : List Bytes :=
  if name = [] ∨ name = ascii "." then
    kept
  else if name = ascii ".." then
    match kept with
    | last :: before => if last = ascii ".." then name :: kept else before
    | [] => if rooted then [] else [name]
  else
    name :: kept

/-- `filepath.Clean`. -/
def clean (p : Bytes) : Bytes :=
  let rooted := p.head? = some 47
  let names := ((p.splitOn 47).foldl (cleanName rooted) []).reverse
  if rooted then
    47 :: [47].intercalate names
  else if names = [] then
    ascii "."
  else
    [47].intercalate names

/-- What `filepath.Rel` answers, none for an error. -/
abbrev Rel := Bytes → Bytes → Option Bytes

/-- `pathUnderWorkDir`. -/
def pathUnderWorkDir (rel : Rel) (workDir path : Bytes) : Bytes :=
  if workDir = [] ∨ path = [] then
    path
  else
    let cleanWork := clean workDir
    let cleanPath := clean path
    if cleanPath = cleanWork then
      ascii "."
    else if cleanWork ++ ascii "/" <+: cleanPath then
      cleanPath.drop (cleanWork.length + 1)
    else
      match rel cleanWork cleanPath with
      | some below => if below ≠ ascii "." then below else path
      | none => path

/-- `shellExecPath`. -/
def shellExecPath (path : Bytes) : Bytes :=
  if path = [] ∨ path = ascii "." ∨ ascii "/" <+: path then
    path
  else if ascii "~/" <+: path ∨ ascii "./" <+: path ∨ ascii "../" <+: path then
    path
  else if 47 ∈ path then
    path
  else
    ascii "./" ++ path

/-- What `startDetachedShellCmd` is asked for, with the environment in the order of `range`. -/
structure Detached where
  workDir : Bytes
  binary : Bytes
  argv : List Bytes
  env : List (Bytes × Bytes)
  stdoutPath : Bytes
  stderrPath : Bytes

/-- The path of the binary from the working directory. -/
def Detached.bin (rel : Rel) (d : Detached) : Bytes :=
  shellExecPath (pathUnderWorkDir rel d.workDir d.binary)

/-- The line that `startDetachedShellCmd` writes. -/
def Detached.line (rel : Rel) (d : Detached) : Bytes :=
  ascii "cd " ++ (remotePathExpr d.workDir ++ (ascii " && " ++
    (d.env.flatMap (fun entry => entry.1 ++ (ascii "=" ++ (shellQuote entry.2 ++ ascii " "))) ++
      (ascii "nohup " ++ (remotePathExpr (d.bin rel) ++
        (d.argv.flatMap (fun arg => ascii " " ++ shellQuote arg) ++ (ascii " > " ++
          (remotePathExpr (pathUnderWorkDir rel d.workDir d.stdoutPath) ++ (ascii " 2> " ++
            (remotePathExpr (pathUnderWorkDir rel d.workDir d.stderrPath) ++
              ascii " < /dev/null & echo $!"))))))))))

/-- A word whose bytes are all literal. -/
def quotedWord (s : Bytes) : Word :=
  s.map .quoted

def plainWord (text : String) : Word :=
  (ascii text).map .plain

/-- A path of which only `~` or `~/` at its beginning is expanded. -/
def pathWord (p : Bytes) : Word :=
  if p = ascii "~" then
    [.parameter (ascii "HOME") true]
  else if ascii "~/" <+: p then
    [.parameter (ascii "HOME") true, .plain 47] ++ quotedWord (p.drop 2)
  else
    quotedWord p

section

open Lexer

variable (tokens : List Token)

theorem reads_quoteBody (s : Bytes) (sofar : Word) : Reads ⟨.single, some sofar, tokens⟩
      (s.flatMap (fun byte => if byte = 39 then ascii "'\"'\"'" else [byte]) ++ ascii "'")
      ⟨.unquoted, some (sofar ++ quotedWord s), tokens⟩ := by
  induction s generalizing sofar with
  | nil => simp [quotedWord, Reads, feed, ascii, step, into]
  | cons byte rest ih =>
    rw [List.flatMap_cons, List.append_assoc, quotedWord, List.map_cons, List.append_cons]
    by_cases isQuote : byte = 39
    · subst isQuote
      rw [if_pos rfl]
      -- The quote is closed, a quote in double quotes follows, and the quote is opened again.
      have escaped : Reads ⟨.single, some sofar, tokens⟩ (ascii "'\"'\"'")
          ⟨.single, some (sofar ++ [Part.quoted 39]), tokens⟩ := rfl
      exact escaped.append (ih _)
    · rw [if_neg isQuote]
      have literal : step ⟨.single, some sofar, tokens⟩ byte =
          some ⟨.single, some (sofar ++ [Part.quoted byte]), tokens⟩ := by
        simp [step, isQuote, push]
      exact .cons literal (ih _)

theorem reads_shellQuote (s : Bytes) (word : Option Word) :
    Reads ⟨.unquoted, word, tokens⟩ (shellQuote s)
      ⟨.unquoted, some (word.getD [] ++ quotedWord s), tokens⟩ := by
  rw [shellQuote, List.append_assoc]
  have opens : Reads ⟨.unquoted, word, tokens⟩ (ascii "'") ⟨.single, some (word.getD []), tokens⟩ :=
    rfl
  exact opens.append (reads_quoteBody tokens s _)

theorem reads_remotePathExpr (p : Bytes) : Reads ⟨.unquoted, none, tokens⟩ (remotePathExpr p)
      ⟨.unquoted, some (pathWord p), tokens⟩ := by
  unfold remotePathExpr pathWord
  split
  · rfl
  split
  · have home : Reads ⟨.unquoted, none, tokens⟩ (ascii "\"$HOME\"/")
        ⟨.unquoted, some [.parameter (ascii "HOME") true, .plain 47], tokens⟩ := rfl
    exact home.append (reads_shellQuote tokens _ _)
  · exact reads_shellQuote tokens p none

/-- The word of an assignment. -/
def assignmentWord (entry : Bytes × Bytes) : Word :=
  entry.1.map .plain ++ [.plain 61] ++ quotedWord entry.2

end

theorem parseTokens_words (words : List Word) (done : List AndOrList)
    (joined : List SimpleCommand) {command : SimpleCommand} (begun : command.words ≠ [])
    (rest : List Token) :
    parseTokens done joined command (words.map Token.word ++ rest) =
      parseTokens done joined { command with words := command.words ++ words } rest := by
  induction words generalizing command with
  | nil => simp
  | cons word later ih =>
    have added : command.add word = some { command with words := command.words ++ [word] } := by
      simp [SimpleCommand.add, begun]
    rw [List.map_cons, List.cons_append, parseTokens, added]
    have later := @ih { command with words := command.words ++ [word] } (by simp)
    simpa using later

/-- The tokens of the line. -/
def Detached.tokens (rel : Rel) (d : Detached) : List Token :=
  [Token.word (plainWord "cd"), .word (pathWord d.workDir), .andIf] ++
    d.env.map (fun entry => Token.word (assignmentWord entry)) ++
    [Token.word (plainWord "nohup")] ++
    (pathWord (d.bin rel) :: d.argv.map quotedWord).map Token.word ++
    [Token.redirect [] true] ++
    [Token.word (pathWord (pathUnderWorkDir rel d.workDir d.stdoutPath))] ++
    [Token.redirect (ascii "2") true] ++
    [Token.word (pathWord (pathUnderWorkDir rel d.workDir d.stderrPath)), .redirect [] false,
      .word (plainWord "/dev/null"), .background, .word (plainWord "echo"),
      .word [.parameter (ascii "!") false]]

end Remote

end PortableTpcc
