import PortableTpcc.LineSplitting
import PortableTpcc.WaitProcesses

namespace PortableTpcc

namespace Mind

/-!
# Relaying the logs of a process

`relayProcessLogs` (`drive.go`) reads the two logs of a process as a whole and prints the lines
behind an offset that it keeps for each of them.  A text is a list of bytes; the directory of the
logs is left out.
-/

/-- `'\n'` and `'\r'`. -/
def newline : UInt8 := 10

def carriageReturn : UInt8 := 13

/-- The files of `relayProcessLogs`, in its order. -/
inductive LogFile where
  | stderr
  | stdout
deriving Repr, DecidableEq

/-- `processLogCursor`. -/
structure ProcessLogCursor where
  stderrOff : Int := 0
  stdoutOff : Int := 0
deriving Repr, DecidableEq

/-- The offset of a file. -/
def ProcessLogCursor.off (curs : ProcessLogCursor) : LogFile → Int
  | .stderr => curs.stderrOff
  | .stdout => curs.stdoutOff

/-- `progress.Printf("[%s/%s] %s", …)`, with the file the line was read from. -/
structure RelayedLine where
  file : LogFile
  role : String
  instanceName : String
  line : List UInt8
deriving Repr, DecidableEq

/-- `bytes.TrimRight(line, "\r")`. -/
def trimReturns (line : List UInt8) : List UInt8 :=
  line.rdropWhile (· = carriageReturn)

/-- `if line != "" { lines = append(lines, line) }`, before the later lines. -/
def consNonempty (line : List UInt8) (lines : List (List UInt8)) : List (List UInt8) :=
  if line ≠ [] then line :: lines else lines

/-- The loop of `completeLogLines`, where `rest` is `data[newOff:]`. -/
def logLinesLoop (rest : List UInt8) (newOff : Int) : List (List UInt8) × Int :=
  match found : rest.idxOf? newline with
  | none => ([], newOff)
  | some i =>
    let later := logLinesLoop (rest.drop (i + 1)) (newOff + (i + 1))
    (consNonempty (trimReturns (rest.take i)) later.1, later.2)
termination_by rest.length
decreasing_by
  have := (List.idxOf?_eq_some_iff.mp found).1
  rw [List.length_drop]
  omega

/-- `completeLogLines`. -/
def completeLogLines (data : List UInt8) (off : Int) : List (List UInt8) × Int :=
  let off := if off < 0 then 0 else off
  if off > data.length then
    ([], off)
  else
    logLinesLoop (data.drop off.toNat) off

/-- One turn of the loop of `relayProcessLogs`: the offset and the lines that are printed. -/
def relayLog (proc : LaunchedProc) (file : LogFile) (read : Option (List UInt8)) (off : Int) :
    Int × List RelayedLine :=
  match read with
  | none => (off, [])
  | some data =>
    let found := completeLogLines data off
    (found.2, found.1.map fun line => ⟨file, proc.role, proc.instanceName, line⟩)

/-- `relayProcessLogs`, where `read` says what `ReadFile` gives for each file. -/
def relayProcessLogs (proc : LaunchedProc) (curs : ProcessLogCursor)
    (read : LogFile → Option (List UInt8)) : ProcessLogCursor × List RelayedLine × Bool :=
  let ofStderr := relayLog proc .stderr (read .stderr) curs.stderrOff
  let ofStdout := relayLog proc .stdout (read .stdout) curs.stdoutOff
  let relayed := ofStderr.2 ++ ofStdout.2
  (⟨ofStderr.1, ofStdout.1⟩, relayed, relayed ≠ [])

/-- All calls for one process, which share a cursor. -/
def relayAll (proc : LaunchedProc) (curs : ProcessLogCursor) :
    List (LogFile → Option (List UInt8)) → ProcessLogCursor × List RelayedLine
  | [] => (curs, [])
  | read :: later =>
    let now := relayProcessLogs proc curs read
    let others := relayAll proc now.1 later
    (others.1, now.2.1 ++ others.2)

/-- The lines of a text that should be printed. -/
def finishedLines (text : List UInt8) : List (List UInt8) :=
  ((completeLines newline text).map trimReturns).filter (· ≠ [])

/-- The longer of two reads of one log. -/
def longer (seen data : List UInt8) : List UInt8 :=
  if seen.length < data.length then data else seen

/-- The longest text that was read; a read that fails gives none. -/
def longestRead (reads : List (Option (List UInt8))) : List UInt8 :=
  reads.foldl (fun seen read => longer seen (read.getD [])) []

/-- The lines of one file among those that were printed. -/
def linesOf (file : LogFile) (relayed : List RelayedLine) : List (List UInt8) :=
  (relayed.filter (·.file = file)).map RelayedLine.line

section

variable {lines : List (List UInt8)} {tail : List UInt8}

theorem consNonempty_eq (line : List UInt8) (lines : List (List UInt8)) :
    consNonempty line (lines.filter (· ≠ [])) = (line :: lines).filter (· ≠ []) := by
  by_cases empty : line = [] <;> simp [consNonempty, empty]

theorem logLinesLoop_of_not_mem {rest : List UInt8} (noNewline : newline ∉ rest) (newOff : Int) :
    logLinesLoop rest newOff = ([], newOff) := by
  rw [logLinesLoop]
  split
  · rfl
  · rename_i i found
    obtain ⟨inside, isNewline, _⟩ := List.idxOf?_eq_some_iff.mp found
    exact absurd (isNewline ▸ List.getElem_mem inside) noNewline

theorem logLinesLoop_line {line rest : List UInt8} (unbroken : newline ∉ line) (newOff : Int) :
    logLinesLoop (line ++ newline :: rest) newOff =
      (consNonempty (trimReturns line) (logLinesLoop rest (newOff + (line.length + 1))).1,
        (logLinesLoop rest (newOff + (line.length + 1))).2) := by
  have position : (line ++ newline :: rest).idxOf? newline = some line.length := by
    rw [List.idxOf?_eq_some_iff]
    refine ⟨by simp, by simp, ?_⟩
    intro j before
    rw [List.getElem_append_left before]
    exact fun same => unbroken (same ▸ List.getElem_mem before)
  rw [logLinesLoop]
  split
  · rename_i missing
    rw [position] at missing
    cases missing
  · rename_i i found
    rw [position] at found
    obtain rfl : line.length = i := Option.some.inj found
    have behind : (line ++ newline :: rest).drop (line.length + 1) = rest := by
      rw [← List.drop_drop, List.drop_left, List.drop_one, List.tail_cons]
    simp only [behind, List.take_left]

theorem logLinesLoop_terminated (unbroken : Unbroken newline lines) (noNewline : newline ∉ tail)
    (newOff : Int) :
    logLinesLoop (terminated newline lines ++ tail) newOff =
      ((lines.map trimReturns).filter (· ≠ []), newOff + (terminated newline lines).length) := by
  induction lines generalizing newOff with
  | nil =>
    rw [terminated, List.flatMap_nil, List.nil_append, logLinesLoop_of_not_mem noNewline]
    simp
  | cons line rest ih =>
    obtain ⟨first, others⟩ := List.forall_mem_cons.mp unbroken
    have shape : terminated newline (line :: rest) ++ tail =
        line ++ newline :: (terminated newline rest ++ tail) := by
      simp [terminated]
    have length : (terminated newline (line :: rest)).length =
        line.length + 1 + (terminated newline rest).length := by
      simp [terminated]
      omega
    rw [shape, logLinesLoop_line first, ih others, consNonempty_eq, length]
    push_cast
    rw [List.map_cons, Int.add_assoc newOff]

theorem completeLogLines_of_le {data : List UInt8} {off : Nat} (inside : off ≤ data.length) :
    completeLogLines data off = logLinesLoop (data.drop off) off := by
  have small : ¬ (off : Int) > data.length := by omega
  have nonneg : ¬ (off : Int) < 0 := by omega
  simp only [completeLogLines, if_neg nonneg, if_neg small, Int.toNat_natCast]

theorem completeLogLines_of_lt {data : List UInt8} {off : Nat} (outside : data.length < off) :
    completeLogLines data off = ([], (off : Int)) := by
  have large : (off : Int) > data.length := by omega
  have nonneg : ¬ (off : Int) < 0 := by omega
  simp only [completeLogLines, if_neg nonneg, if_pos large]

end

/-- The offset stands behind the complete lines of what was read. -/
def Behind (off : Int) (seen : List UInt8) : Prop :=
  ∃ lines tail, seen = terminated newline lines ++ tail ∧ Unbroken newline lines ∧
    newline ∉ tail ∧ off = (terminated newline lines).length

variable {log seen data : List UInt8} {off : Int}

/-- A read prints what it adds to the complete lines of the longest one. -/
theorem Behind.read (behind : Behind off seen) (ofLog : seen <+: log) (read : data <+: log) :
    Behind (completeLogLines data off).2 (longer seen data) ∧
      finishedLines (longer seen data) = finishedLines seen ++ (completeLogLines data off).1 := by
  obtain ⟨lines, tail, rfl, unbroken, noNewline, rfl⟩ := behind
  by_cases grown : (terminated newline lines ++ tail).length < data.length
  · obtain ⟨more, rfl⟩ := List.prefix_of_prefix_length_le ofLog read grown.le
    obtain ⟨newLines, newTail, shape, newUnbroken, newNoNewline⟩ :=
      exists_terminated newline (tail ++ more)
    have whole : terminated newline lines ++ tail ++ more =
        terminated newline (lines ++ newLines) ++ newTail := by
      rw [List.append_assoc, shape, terminated_append, List.append_assoc]
    have allUnbroken : Unbroken newline (lines ++ newLines) := by
      intro line member
      exact (List.mem_append.mp member).elim (unbroken line) (newUnbroken line)
    have found : completeLogLines (terminated newline lines ++ tail ++ more)
        (terminated newline lines).length =
        ((newLines.map trimReturns).filter (· ≠ []),
          ((terminated newline lines).length : Int) + (terminated newline newLines).length) := by
      rw [completeLogLines_of_le (by simp only [List.length_append]; omega), List.append_assoc,
        drop_terminated, shape, logLinesLoop_terminated newUnbroken newNoNewline]
    rw [found, longer, if_pos grown]
    refine ⟨⟨lines ++ newLines, newTail, whole, allUnbroken, newNoNewline, ?_⟩, ?_⟩
    · rw [terminated_append, List.length_append]
      push_cast
      rfl
    · rw [whole, finishedLines, completeLines_terminated allUnbroken newNoNewline, finishedLines,
        completeLines_terminated unbroken noNewline, List.map_append, List.filter_append]
  · have same : longer (terminated newline lines ++ tail) data = terminated newline lines ++ tail :=
      if_neg grown
    have nothing : completeLogLines data (terminated newline lines).length =
        ([], ((terminated newline lines).length : Int)) := by
      by_cases short : data.length < (terminated newline lines).length
      · exact completeLogLines_of_lt short
      · have cut : data <+: terminated newline lines ++ tail :=
          List.prefix_of_prefix_length_le read ofLog (Nat.not_lt.mp grown)
        have inTail : data.drop (terminated newline lines).length <+: tail := by
          simpa [drop_terminated] using cut.drop (terminated newline lines).length
        rw [completeLogLines_of_le (Nat.not_lt.mp short)]
        exact logLinesLoop_of_not_mem (fun member => noNewline (inTail.subset member)) _
    rw [nothing, same, List.append_nil]
    exact ⟨⟨lines, tail, rfl, unbroken, noNewline, rfl⟩, rfl⟩

theorem longer_none (seen : List UInt8) : longer seen [] = seen :=
  if_neg (Nat.not_lt_zero _)

theorem longer_isPrefix (ofLog : seen <+: log) (read : data <+: log) :
    longer seen data <+: log := by
  unfold longer
  split
  · exact read
  · exact ofLog

theorem linesOf_append (file : LogFile) (first second : List RelayedLine) :
    linesOf file (first ++ second) = linesOf file first ++ linesOf file second := by
  rw [linesOf, List.filter_append, List.map_append]
  rfl

/-- The lines that one turn prints all stand for its file. -/
theorem linesOf_relayLog (proc : LaunchedProc) (file other : LogFile)
    (read : Option (List UInt8)) (off : Int) :
    linesOf other (relayLog proc file read off).2 =
      if file = other then (read.elim [] fun data => (completeLogLines data off).1) else [] := by
  cases read with
  | none => simp [relayLog, linesOf]
  | some data =>
    by_cases same : file = other
    · simp [relayLog, linesOf, List.filter_map, same, Function.comp_def]
    · simp [relayLog, linesOf, List.filter_map, same, Function.comp_def]

theorem linesOf_relayProcessLogs (proc : LaunchedProc) (curs : ProcessLogCursor)
    (read : LogFile → Option (List UInt8)) (file : LogFile) :
    linesOf file (relayProcessLogs proc curs read).2.1 =
      (read file).elim [] fun data => (completeLogLines data (curs.off file)).1 := by
  rw [relayProcessLogs, linesOf_append, linesOf_relayLog, linesOf_relayLog]
  cases file <;> simp [ProcessLogCursor.off]

theorem off_relayProcessLogs (proc : LaunchedProc) (curs : ProcessLogCursor)
    (read : LogFile → Option (List UInt8)) (file : LogFile) :
    (relayProcessLogs proc curs read).1.off file =
      (read file).elim (curs.off file) fun data => (completeLogLines data (curs.off file)).2 := by
  cases file with
  | stderr =>
    cases isRead : read .stderr <;>
      simp [relayProcessLogs, relayLog, ProcessLogCursor.off, isRead]
  | stdout =>
    cases isRead : read .stdout <;>
      simp [relayProcessLogs, relayLog, ProcessLogCursor.off, isRead]

/-- The lines of the longest read are those printed before and those the later calls print. -/
theorem linesOf_relayAll (proc : LaunchedProc) {file : LogFile}
    {reads : List (LogFile → Option (List UInt8))}
    (prefixes : ∀ read ∈ reads, ∀ data, read file = some data → data <+: log)
    {curs : ProcessLogCursor} (behind : Behind (curs.off file) seen) (ofLog : seen <+: log) :
    finishedLines ((reads.map (· file)).foldl (fun seen read => longer seen (read.getD [])) seen) =
      finishedLines seen ++ linesOf file (relayAll proc curs reads).2 := by
  induction reads generalizing seen curs with
  | nil => simp [relayAll, linesOf]
  | cons read later ih =>
    obtain ⟨now, afterwards⟩ := List.forall_mem_cons.mp prefixes
    rw [List.map_cons, List.foldl_cons, relayAll, linesOf_append, linesOf_relayProcessLogs,
      ← List.append_assoc]
    have offset := off_relayProcessLogs proc curs read file
    cases isRead : read file with
    | none =>
      rw [isRead] at offset
      rw [Option.getD_none, longer_none, Option.elim_none, List.append_nil]
      exact ih afterwards (offset ▸ behind) ofLog
    | some data =>
      rw [isRead] at offset
      obtain ⟨behindNow, lines⟩ := behind.read ofLog (now data isRead)
      rw [Option.getD_some, Option.elim_some, ← lines]
      exact ih afterwards (offset ▸ behindNow)
        (longer_isPrefix ofLog (now data isRead))

/-- What was printed for a log is the complete lines of the longest read of it. -/
theorem relayProcessLogs_lines (proc : LaunchedProc) (file : LogFile)
    (reads : List (LogFile → Option (List UInt8))) (log : List UInt8)
    (prefixes : ∀ read ∈ reads, ∀ data, read file = some data → data <+: log) :
    linesOf file (relayAll proc {} reads).2 = finishedLines (longestRead (reads.map (· file))) := by
  have start : Behind (({} : ProcessLogCursor).off file) [] := by
    refine ⟨[], [], rfl, by simp [Unbroken], by simp, ?_⟩
    cases file <;> rfl
  have lines := linesOf_relayAll proc prefixes start (List.nil_prefix)
  rw [longestRead, lines]
  simp [finishedLines, completeLines]

/-- A process whose log is read twice, the second time shorter. -/
def relayedProcess : LaunchedProc where
  role := "worker"
  host := "host"
  instanceName := "w1"
  pid := 1
  launchPid := 1
  procPath := "process.json"
  donePath := "artifact-manifest.json"
  instanceNonce := ""

/-- A log that cannot be read once and then is shorter. -/
theorem relayProcessLogs_lines_shrinking :
    linesOf .stdout (relayAll relayedProcess {} [fun _ => some [104, 13, 10, 105],
      fun _ => none, fun _ => some [104]]).2 = [[104]] := by
  rw [relayProcessLogs_lines relayedProcess .stdout _ [104, 13, 10, 105] (by decide)]
  decide

end Mind

end PortableTpcc
