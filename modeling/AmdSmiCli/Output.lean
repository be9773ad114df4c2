import AmdSmiCli.Interface

/-!
# Output helpers

`get_output_format` reads the output format off the command line, and `unit_format` formats a value with its unit
for the logger's format. `progressbar` is a generator that prints a bar of `size` cells before the first item and
after each item; `showProgressbar` drives it over `range(timeInSeconds)`, sleeping one second per item.

- `progressbarLoop_trace`: after each item the loop's body sleeps and the generator prints the next bar;
- `show_progressbar_trace`: `showProgressbar` raises `ZeroDivisionError` for every duration `≤ 0`, before printing
  anything; for `n ≥ 1` seconds it prints `n + 1` bars of 40 cells, the `j`-th with `⌊40 j / n⌋` filled and the
  last one full, a one-second sleep between each two, and the closing newlines.

The two confirmations print a warning and take an answer, `auto_respond` when it is truthy and else a typed line
(`confirmWarning`); they return on one of five answers and exit otherwise.

- `confirmations_same_answers`: the two return, exit and fail on the end of the input for the same answers; they
  differ only in what they write, the message of a refusal going to stdout in one and through `sys.exit` to stderr
  in the other.
-/

namespace AmdSmiCli

/-! ## The output format -/

/-- `get_output_format` on `sys.argv`: `--json` or `--j` anywhere after the program's name gives `json`; failing
that, `--csv` or `--c` gives `csv`. -/
def getOutputFormat (argv : List String) : String :=
  let args := argv.drop 1
  if "--json" ∈ args ∨ "--j" ∈ args then "json"
  else if "--csv" ∈ args ∨ "--c" ∈ args then "csv"
  else "human"

/-- The format of the logger, as `is_json_format()` and `is_human_readable_format()` tell it. -/
inductive LoggerFormat where
  | json
  | humanReadable
  | csv
  deriving DecidableEq, Repr

/-- What `unit_format` returns: the dict `{"value": value, "unit": unit}`, or a string. -/
inductive UnitFormatted (α : Type) where
  | dict (value : α) (unit : String)
  | text (s : String)
  deriving DecidableEq, Repr

/-- `unit_format(logger, value, unit)`, `str(value)` being `toString value`. -/
def unitFormat {α : Type} [ToString α] (format : LoggerFormat) (value : α) (unit : String) : UnitFormatted α :=
  match format with
  | .json => .dict value unit
  | .humanReadable => .text (rstrip (toString value ++ " " ++ unit))
  | .csv => .text (toString value)

/-! ## The progress bar -/

/-- What `showProgressbar` does that its caller observes: a `print(..., end='\r')`, or `time.sleep(1)`. -/
inductive ProgressEvent where
  | print (text : String)
  | sleep
  deriving DecidableEq, Repr

/-- The cells of the bar of `show(j)`: `'█' * x` then `'.' * (size - x)`, with `x = int(size * j / count)`, the
floor of the quotient (what the float division gives while `size * j < 2 ^ 53`). -/
def progressCells (size count j : Nat) : List Char :=
  List.replicate (size * j / count) '█' ++ List.replicate (size - size * j / count) '.'

/-- The line `show(j)` prints: `"{prefix}[{cells}] {j}/{count} secs remain"`. -/
def progressLine (pre : String) (size count j : Nat) : String :=
  pre ++ "[" ++ ⟨progressCells size count j⟩ ++ "] " ++ toString j ++ "/" ++ toString count ++ " secs remain"

/-- `show(j)` of `progressbar`: its line, or `ZeroDivisionError` when `count` is `0`. -/
def progressbarShow (pre : String) (size count j : Nat) : Except PyError String :=
  if count = 0 then .error .zeroDivisionError else .ok (progressLine pre size count j)

/-- `for i, item in enumerate(it):` of `progressbar` from `i`, under the loop of `showProgressbar`: each item is
yielded, the loop's body sleeps one second, and `show(i + 1)` prints. -/
def progressbarLoop (pre : String) (size count : Nat) : Nat → Nat → Except PyError (List ProgressEvent)
  | _, 0 => .ok []
  | i, n + 1 => do
    let line ← progressbarShow pre size count (i + 1)
    let rest ← progressbarLoop pre size count (i + 1) n
    return .sleep :: .print line :: rest

/-- `progressbar(it, prefix, size)` over `count = len(it)` items, driven to its end by the loop of
`showProgressbar`: `show(0)`, the items, and `print("\n\n", end='\r')`. -/
def progressbar (pre : String) (size count : Nat) : Except PyError (List ProgressEvent) := do
  let first ← progressbarShow pre size count 0
  let rest ← progressbarLoop pre size count 0 count
  return .print first :: rest ++ [.print "\n\n"]

/-- `showProgressbar(title, timeInSeconds)`: the bar of 40 cells over `range(timeInSeconds)`. -/
def showProgressbar (title : String) (timeInSeconds : Int) : Except PyError (List ProgressEvent) :=
  let title := if title ≠ "" then title ++ ": " else title
  progressbar title 40 timeInSeconds.toNat

/-! ## What the bar shows -/

/-- The events of a full run over `count` items: the first bar, then a sleep and the next bar per item, then the
closing newlines. -/
def progressTrace (pre : String) (size count : Nat) : List ProgressEvent :=
  .print (progressLine pre size count 0) ::
    (List.range' 1 count).flatMap (fun j => [.sleep, .print (progressLine pre size count j)]) ++ [.print "\n\n"]

/-- A bar up to the last has `size` cells, `⌊size j / count⌋` of them filled. -/
theorem progressCells_length {size count j : Nat} (hj : j ≤ count) :
    (progressCells size count j).length = size := by
  have : size * j / count ≤ size :=
    Nat.div_le_of_le_mul (by rw [Nat.mul_comm]; exact Nat.mul_le_mul_right size hj)
  simp only [progressCells, List.length_append, List.length_replicate]
  omega

/-- The last bar is full. -/
theorem progressCells_full (size count : Nat) (hc : 0 < count) :
    progressCells size count count = List.replicate size '█' := by
  simp [progressCells, Nat.mul_div_cancel _ hc]

/-- **The loop of the bar**: with items to show, after item `i` the body sleeps and the next bar prints. -/
theorem progressbarLoop_trace (pre : String) (size count : Nat) (hc : 0 < count) :
    ∀ n i, progressbarLoop pre size count i n =
      .ok ((List.range' (i + 1) n).flatMap fun j => [.sleep, .print (progressLine pre size count j)])
  | 0, _ => rfl
  | n + 1, i => by
    simp only [progressbarLoop, progressbarShow, Nat.pos_iff_ne_zero.1 hc, if_false,
      progressbarLoop_trace pre size count hc n (i + 1), bind, Except.bind, pure, Except.pure]
    simp [List.range'_succ]

/-- **The progress bar**: `showProgressbar` raises `ZeroDivisionError` for every duration `≤ 0`, before printing
anything; over `n ≥ 1` seconds it prints the first bar, then a one-second sleep and the next bar per second, then
the closing newlines. Each bar has 40 cells, the `j`-th `⌊40 j / n⌋` of them filled, and the last is full. -/
theorem show_progressbar_trace (title : String) (timeInSeconds : Int) :
    (timeInSeconds ≤ 0 → showProgressbar title timeInSeconds = .error .zeroDivisionError) ∧
    ∀ n : Nat, 0 < n → timeInSeconds = n →
      showProgressbar title timeInSeconds = .ok (progressTrace (if title ≠ "" then title ++ ": " else title) 40 n) ∧
      (∀ j ≤ n, (progressCells 40 n j).length = 40) ∧ progressCells 40 n n = List.replicate 40 '█' := by
  refine ⟨fun h => ?_, fun n hn ht => ⟨?_, fun j hj => progressCells_length hj, progressCells_full 40 n hn⟩⟩
  · simp [showProgressbar, progressbar, progressbarShow, Int.toNat_eq_zero.2 h, bind, Except.bind]
  · subst ht
    simp only [showProgressbar, progressbar, progressbarShow, Int.toNat_ofNat, Nat.pos_iff_ne_zero.1 hn, if_false,
      progressbarLoop_trace _ 40 n hn, bind, Except.bind, pure, Except.pure, progressTrace]

/-! ## Confirmations -/

/-- The value of `auto_respond`: a string, or a `bool` (the default is `False`). -/
inductive AutoRespond where
  | str (s : String)
  | bool (b : Bool)
  deriving DecidableEq, Repr

/-- `not auto_respond`: `False` and the empty string. -/
def AutoRespond.isFalsy : AutoRespond → Bool
  | .str s => s.isEmpty
  | .bool b => !b

/-- What a confirmation writes: the warning (its text left out), the prompt of `input`, or a `print`. -/
inductive PromptEvent where
  | warning
  | input (prompt : String)
  | print (text : String)
  deriving DecidableEq, Repr

/-- How a confirmation stops the program: `sys.exit(text)`, which writes the text on stderr and exits with status 1;
`sys.exit(code)`; or the `EOFError` of `input` at the end of the input. -/
inductive ConfirmExit where
  | exitMessage (text : String)
  | exitCode (code : Nat)
  | eofError
  deriving DecidableEq, Repr

/-- `user_input in [...]`: only a string can equal one of the answers. -/
def answerAccepted (accepted : List String) : AutoRespond → Bool
  | .str s => s ∈ accepted
  | .bool _ => false

/-- The body of the confirmations: the warning; the answer, `auto_respond` when it is truthy and otherwise the line
typed at `prompt` (`none` at the end of the input); then `onAccept` and return for an answer in `accepted`, and
`onRefuse` otherwise. -/
def confirmWarning (prompt : String) (accepted : List String) (onAccept : List PromptEvent)
    (onRefuse : List PromptEvent × ConfirmExit) (autoRespond : AutoRespond) (typed : Option String) :
    List PromptEvent × Except ConfirmExit Unit :=
  let (asked, userInput) : List PromptEvent × Option AutoRespond :=
    if autoRespond.isFalsy then ([.input prompt], typed.map .str) else ([], some autoRespond)
  match userInput with
  | none => (.warning :: asked, .error .eofError)
  | some userInput =>
    if answerAccepted accepted userInput then (.warning :: asked ++ onAccept, .ok ())
    else (.warning :: asked ++ onRefuse.1, .error onRefuse.2)

/-- The message of a refusal. -/
def confirmationNotGiven : String := "Confirmation not given. Exiting without setting value"

/-- `confirm_out_of_spec_warning(auto_respond)`: a refusal is `sys.exit` of the message. -/
def confirmOutOfSpecWarning (autoRespond : AutoRespond) (typed : Option String) :
    List PromptEvent × Except ConfirmExit Unit :=
  confirmWarning "Do you accept these terms? [y/n] " ["y", "Y", "yes", "Yes", "YES"] []
    ([], .exitMessage confirmationNotGiven) autoRespond typed

/-- `confirm_changing_memory_partition_gpu_reload_warning(auto_respond)`: an acceptance prints an empty line, a
refusal prints the message and exits with status 1. -/
def confirmChangingMemoryPartitionGpuReloadWarning (autoRespond : AutoRespond) (typed : Option String) :
    List PromptEvent × Except ConfirmExit Unit :=
  confirmWarning "Do you accept these terms? [Y/N] " ["Yes", "yes", "y", "Y", "YES"] [.print ""]
    ([.print confirmationNotGiven], .exitCode 1) autoRespond typed

/-- How a confirmation ends depends on the answer only: the end of the input, an accepted string, or anything
else (`True` among them). -/
theorem confirmWarning_snd (prompt : String) (accepted : List String) (onAccept : List PromptEvent)
    (onRefuse : List PromptEvent × ConfirmExit) (autoRespond : AutoRespond) (typed : Option String) :
    (confirmWarning prompt accepted onAccept onRefuse autoRespond typed).2 =
      match (if autoRespond.isFalsy then typed.map .str else some autoRespond) with
      | none => .error .eofError
      | some userInput => if answerAccepted accepted userInput then .ok () else .error onRefuse.2 := by
  unfold confirmWarning
  cases autoRespond.isFalsy <;> cases typed <;> simp only [if_true, if_false, Bool.false_eq_true] <;> split <;>
    simp only [apply_ite Prod.snd]

theorem answerAccepted_perm (userInput : AutoRespond) :
    answerAccepted ["Yes", "yes", "y", "Y", "YES"] userInput =
      answerAccepted ["y", "Y", "yes", "Yes", "YES"] userInput := by
  cases userInput with
  | str s => simp only [answerAccepted, (show ["Yes", "yes", "y", "Y", "YES"].Perm ["y", "Y", "yes", "Yes", "YES"] by
      decide).mem_iff]
  | bool b => rfl

/-- **The two confirmations** take the same answers: for every `auto_respond` and typed line, one returns exactly
when the other does, and both fail together at the end of the input. A refusal ends both with status 1 and the same
message, which the memory partition one prints on stdout and the other gives to `sys.exit`, for stderr. -/
theorem confirmations_same_answers (autoRespond : AutoRespond) (typed : Option String) :
    ((confirmChangingMemoryPartitionGpuReloadWarning autoRespond typed).2 = .ok () ↔
      (confirmOutOfSpecWarning autoRespond typed).2 = .ok ()) ∧
    ((confirmChangingMemoryPartitionGpuReloadWarning autoRespond typed).2 = .error (.exitCode 1) ↔
      (confirmOutOfSpecWarning autoRespond typed).2 = .error (.exitMessage confirmationNotGiven)) ∧
    ((confirmChangingMemoryPartitionGpuReloadWarning autoRespond typed).2 = .error .eofError ↔
      (confirmOutOfSpecWarning autoRespond typed).2 = .error .eofError) := by
  simp only [confirmChangingMemoryPartitionGpuReloadWarning, confirmOutOfSpecWarning, confirmWarning_snd]
  split
  · simp
  · rw [answerAccepted_perm]
    cases answerAccepted ["y", "Y", "yes", "Yes", "YES"] _ <;> simp

end AmdSmiCli
