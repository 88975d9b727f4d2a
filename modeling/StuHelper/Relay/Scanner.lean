import StuHelper.Lib.Run
import StuHelper.Lib.Text

/-!
# The scanner of upstream streams

`StreamScannerHandler` reads the lines of a stream in one goroutine and handles their data in
another.  The two are connected by a channel with room for ten, and each of them closes the stop
signal when it ends.  The stream is not cut off: its lines fit the buffer, the client stays, no wait
times out, pings succeed and the data handler lets the stream go on.
-/

namespace StuHelper.Relay

open Lib List

/-- A line or its data. -/
abbrev Line := List Char

def Line.startsWith (line : Line) (start : String) : Bool := start.toList.isPrefixOf line

/-- What the scanner makes of a line. -/
inductive Scanned where
  | skip | done
  | data (data : Line)
  deriving DecidableEq, Repr

/-- One round of the loop over the lines.  The comparisons are on bytes. -/
def scanLine (line : Line) : Scanned :=
  if (line.map Char.utf8Size).sum < 6 then .skip
  else if !line.startsWith "data:" && !line.startsWith "[DONE]" then .skip
  else
    let data := Text.trim (line.drop 5)
    if data = [] then .skip
    else if Line.startsWith data "[DONE]" then .done
    else .data data

inductive StreamEndReason where
  | done | eof
  deriving DecidableEq, Repr

/-- At the end of the scanner the channel is closed, the goroutine counted and the stream
stopped. -/
inductive ScannerPhase where
  | scanning | leaving | closed | counted | gone
  | sending (data : Line)
  deriving DecidableEq, Repr

inductive HandlerPhase where
  | ranging | leaving | counted | gone
  | handling (data : Line)
  deriving DecidableEq, Repr

inductive MainPhase where
  | waiting | stopping | returned
  deriving DecidableEq, Repr

structure StreamState where
  lines : List Line
  scanner : ScannerPhase := .scanning
  dataChan : List Line := []
  handler : HandlerPhase := .ranging
  handled : List Line := []
  pinging : Bool
  stopped : Bool := false
  main : MainPhase := .waiting
  endReason : Option StreamEndReason := none
  deriving DecidableEq, Repr

/-- The goroutines.  The scanner may notice the stop when it could also send, and the pings end
after `maxPingDuration`. -/
inductive Worker where
  | handler | main
  | scanner (quits : Bool)
  | ping (expired : Bool)
  deriving DecidableEq, Repr

namespace StreamState

variable (state : StreamState)

/-- The first reason stays. -/
def setEndReason (reason : StreamEndReason) : StreamState :=
  { state with endReason := state.endReason.or (some reason) }

def scan (quits : Bool) : StreamState :=
  match state.scanner with
  | .scanning =>
    match state.lines with
    | [] => { state.setEndReason .eof with scanner := .leaving }
    | line :: lines =>
      if state.stopped then { state with lines, scanner := .leaving }
      else
        match scanLine line with
        | .skip => { state with lines }
        | .done => { state.setEndReason .done with lines, scanner := .leaving }
        | .data data => { state with lines, scanner := .sending data }
  | .sending data =>
    if state.dataChan.length < 10 && !(state.stopped && quits) then
      { state with dataChan := state.dataChan ++ [data], scanner := .scanning }
    else if state.stopped then { state with scanner := .leaving }
    else state
  | .leaving => { state with scanner := .closed }
  | .closed => { state with scanner := .counted }
  | .counted => { state with scanner := .gone, stopped := true }
  | .gone => state

/-- The channel is closed. -/
def isClosed : Bool :=
  match state.scanner with
  | .scanning | .sending _ | .leaving => false
  | .closed | .counted | .gone => true

def handle : StreamState :=
  match state.handler with
  | .ranging =>
    match state.dataChan with
    | data :: dataChan => { state with dataChan, handler := .handling data }
    | [] => if state.isClosed then { state with handler := .leaving } else state
  | .handling data => { state with handled := state.handled ++ [data], handler := .ranging }
  | .leaving => { state with handler := .counted }
  | .counted => { state with handler := .gone, stopped := true }
  | .gone => state

/-- `wg.Wait` ends. -/
def workersDone : Bool :=
  (state.scanner = .counted || state.scanner = .gone) &&
    (state.handler = .counted || state.handler = .gone) && !state.pinging

def step : Worker → StreamState
  | .scanner quits => state.scan quits
  | .handler => state.handle
  | .ping expired => if state.stopped || expired then { state with pinging := false } else state
  | .main =>
    match state.main with
    | .waiting => if state.stopped then { state with main := .stopping } else state
    | .stopping => if state.workersDone then { state with main := .returned } else state
    | .returned => state

end StreamState

/-! ## What is handled -/

/-- The data that the scanner sends. -/
def sentData : List Line → List Line
  | [] => []
  | line :: lines =>
    match scanLine line with
    | .skip => sentData lines
    | .done => []
    | .data data => data :: sentData lines

def endReasonOf : List Line → StreamEndReason
  | [] => .eof
  | line :: lines =>
    match scanLine line with
    | .done => .done
    | .skip | .data _ => endReasonOf lines

namespace StreamState

variable {state : StreamState}

/-- The data between the channel and the handled ones. -/
def inHand (state : StreamState) : List Line :=
  match state.handler with
  | .handling data => [data]
  | .ranging | .leaving | .counted | .gone => []

def unsent (state : StreamState) : Option (List Line) :=
  match state.scanner with
  | .scanning => some (sentData state.lines)
  | .sending data => some (data :: sentData state.lines)
  | .leaving | .closed | .counted | .gone => none

/-- What all goroutines keep, for the lines of a stream. -/
structure Inv (lines : List Line) (state : StreamState) : Prop where
  data : state.handled ++ state.inHand ++ state.dataChan ++ state.unsent.getD [] = sentData lines
  reason : if state.unsent.isSome then
      state.endReason = none ∧ endReasonOf state.lines = endReasonOf lines ∧ state.stopped = false
    else state.endReason = some (endReasonOf lines)
  left : state.handler = .leaving ∨ state.handler = .counted ∨ state.handler = .gone →
    state.isClosed = true ∧ state.dataChan = []
  stops : state.scanner = .gone → state.stopped = true
  returned : state.main = .returned → state.workersDone = true

variable {lines : List Line} (inv : state.Inv lines)

include inv

theorem Inv.scan (quits : Bool) : (state.scan quits).Inv lines := by
  obtain ⟨data, reason, left, stops, returned⟩ := inv
  cases phase : state.scanner with
  | scanning =>
    rw [StreamState.scan, phase]
    cases rest : state.lines with
    | nil | cons =>
      constructor <;>
        grind [setEndReason, inHand, unsent, isClosed, workersDone, sentData, endReasonOf]
  | sending | leaving | closed | counted | gone =>
    rw [StreamState.scan, phase]
    constructor <;> grind [inHand, unsent, isClosed, workersDone]

theorem Inv.handle : state.handle.Inv lines := by
  obtain ⟨data, reason, left, stops, returned⟩ := inv
  cases phase : state.handler with
  | ranging =>
    rw [StreamState.handle, phase]
    cases rest : state.dataChan with
    | nil | cons => constructor <;> grind [inHand, unsent, isClosed, workersDone]
  | handling | leaving | counted | gone =>
    rw [StreamState.handle, phase]
    constructor <;> grind [inHand, unsent, isClosed, workersDone]

theorem Inv.step (worker : Worker) : (state.step worker).Inv lines := by
  cases worker with
  | scanner quits => exact inv.scan quits
  | handler => exact inv.handle
  | ping =>
    rw [StreamState.step]
    split
    · refine { inv with returned := fun back => ?_ }
      have done := inv.returned back
      grind [workersDone]
    · exact inv
  | main =>
    rw [StreamState.step]
    split
    · split
      · exact { inv with returned := nofun }
      · exact inv
    · split
      next done => exact { inv with returned := fun _ => done }
      · exact inv
    · exact inv

theorem Inv.final (back : state.main = .returned) :
    state.handled = sentData lines ∧ state.endReason = some (endReasonOf lines) := by
  have done := inv.returned back
  obtain ⟨data, reason, left, -, -⟩ := inv
  grind [workersDone, inHand, unsent]

omit inv

/-- What is left to do.  It falls with every step that changes something. -/
def work (state : StreamState) : Nat :=
  4 * state.lines.length + 2 * state.dataChan.length + state.inHand.length +
    (match state.scanner with
      | .sending _ => 7 | .scanning => 4
      | .leaving => 3 | .closed => 2 | .counted => 1 | .gone => 0) +
    (match state.handler with
      | .ranging | .handling _ => 3 | .leaving => 2 | .counted => 1 | .gone => 0) +
    (if state.pinging then 1 else 0) +
    match state.main with
      | .waiting => 2 | .stopping => 1 | .returned => 0

theorem handle_work (busy : state.dataChan ≠ [] ∨ state.isClosed = true)
    (stays : state.handler ≠ .gone) : state.handle.work < state.work := by
  cases phase : state.handler with
  | ranging =>
    rw [handle, phase]
    cases rest : state.dataChan with
    | nil | cons => grind [work, inHand]
  | handling | leaving | counted => grind [handle, work, inHand]
  | gone => exact absurd phase stays

include inv

theorem Inv.progress (back : state.main ≠ .returned) :
    ∃ worker, (state.step worker).work < state.work := by
  cases phase : state.scanner with
  | scanning =>
    refine ⟨.scanner false, ?_⟩
    rw [StreamState.step, StreamState.scan, phase]
    cases rest : state.lines with
    | nil | cons => grind [work, setEndReason, inHand]
  | sending =>
    by_cases full : state.dataChan.length < 10
    · exact ⟨.scanner false, by
        simp [StreamState.step, StreamState.scan, work, inHand, phase, full]; omega⟩
    · refine ⟨.handler, handle_work (.inl fun none => ?_) fun gone => ?_⟩
      · simp [none] at full
      · simpa [isClosed, phase] using inv.left (.inr (.inr gone))
  | leaving | closed | counted =>
    exact ⟨.scanner false, by simp [StreamState.step, StreamState.scan, work, inHand, phase]⟩
  | gone =>
    by_cases handler : state.handler = .gone
    · have stopped := inv.stops phase
      cases ping : state.pinging with
      | true => exact ⟨.ping false, by simp [StreamState.step, stopped, work, inHand, ping]⟩
      | false =>
        refine ⟨.main, ?_⟩
        cases main : state.main with
        | waiting => simp [StreamState.step, stopped, work, inHand, main]
        | stopping =>
          simp [StreamState.step, workersDone, phase, handler, ping, work, inHand, main]
        | returned => exact absurd main back
    · exact ⟨.handler, handle_work (.inr (by simp [isClosed, phase])) handler⟩

/-- The function can always come to its end. -/
theorem Inv.returns : ∃ workers, (run StreamState.step state workers).main = .returned := by
  induction size : state.work using Nat.strong_induction_on generalizing state with
  | _ bound ih =>
    by_cases back : state.main = .returned
    · exact ⟨[], back⟩
    · obtain ⟨worker, less⟩ := inv.progress back
      obtain ⟨workers, later⟩ := ih _ (size ▸ less) (inv.step worker) rfl
      exact ⟨worker :: workers, later⟩

end StreamState

def dataOf? (line : Line) : Option Line :=
  if line.startsWith "data:" ∧ Text.trim (line.drop 5) ≠ [] then
    some (Text.trim (line.drop 5))
  else none

def isDoneLine (line : Line) : Bool :=
  line.startsWith "[DONE]" || (dataOf? line).any (·.startsWith "[DONE]")

def dataBeforeDone (lines : List Line) : List Line :=
  (lines.takeWhile (!isDoneLine ·)).filterMap dataOf?

theorem scanLine_eq {line : Line} (bare : line.startsWith "[DONE]" = false) :
    scanLine line =
      match dataOf? line with
      | none => .skip
      | some data => if isDoneLine line then .done else .data data := by
  cases format : line.startsWith "data:" with
  | false => simp [scanLine, dataOf?, bare, format]
  | true =>
    have short : (line.map Char.utf8Size).sum < 6 → Text.trim (line.drop 5) = [] := by
      obtain ⟨rest, rfl⟩ := isPrefixOf_iff_prefix.mp format
      have five : ("data:".toList.map Char.utf8Size).sum = 5 := by decide
      cases rest with
      | nil => exact fun _ => rfl
      | cons char rest =>
        have := char.utf8Size_pos
        rw [map_append, sum_append, five, map_cons, sum_cons]
        omega
    by_cases empty : Text.trim (line.drop 5) = []
    · simp [scanLine, dataOf?, format, empty]
    · simp [scanLine, dataOf?, isDoneLine, bare, format, empty, mt short empty]

theorem sentData_eq {lines : List Line}
    (bare : ∀ line ∈ lines.find? isDoneLine, line.startsWith "[DONE]" = false) :
    sentData lines = dataBeforeDone lines ∧
      endReasonOf lines = if lines.any isDoneLine then .done else .eof := by
  induction lines with
  | nil => exact ⟨rfl, rfl⟩
  | cons line lines ih =>
    rw [sentData, endReasonOf]
    cases done : isDoneLine line with
    | true =>
      have here := bare line (by simp [done])
      rw [scanLine_eq here, dataBeforeDone]
      cases found : dataOf? line with
      | none => simp [isDoneLine, here, found] at done
      | some => simp [done]
    | false =>
      obtain ⟨data, reason⟩ := ih (by simpa [done] using bare)
      rw [scanLine_eq (Bool.or_eq_false_iff.mp done).1, data, reason, dataBeforeDone,
        dataBeforeDone]
      cases found : dataOf? line with
      | none | some => simp [done, found]

/-- An end mark on a line of its own is sent without its first five characters. -/
theorem scanLine_bare {line : Line} (bare : line.startsWith "[DONE]" = true) :
    ∃ data, scanLine line = .data data := by
  obtain ⟨rest, rfl⟩ := isPrefixOf_iff_prefix.mp bare
  have six : ("[DONE]".toList.map Char.utf8Size).sum = 6 := by decide
  have long : ¬ (("[DONE]".toList ++ rest).map Char.utf8Size).sum < 6 := by
    rw [map_append, sum_append, six]
    omega
  have head : (Text.trim (']' :: rest)).head? = some ']' := Text.head?_trim_cons rest (by decide)
  obtain ⟨_, payload⟩ := head?_eq_some_iff.mp head
  have after : Text.trim (("[DONE]".toList ++ rest).drop 5) = _ := payload
  simp only [scanLine, if_neg long, bare, after]
  exact ⟨_, rfl⟩

theorem length_dataBeforeDone_lt {lines : List Line} {line : Line}
    (found : lines.find? isDoneLine = some line) (bare : line.startsWith "[DONE]" = true) :
    (dataBeforeDone lines).length < (sentData lines).length := by
  induction lines with
  | nil => cases found
  | cons first lines ih =>
    cases done : isDoneLine first with
    | true =>
      rw [find?_cons_of_pos done] at found
      cases found
      obtain ⟨_, sent⟩ := scanLine_bare bare
      simp [dataBeforeDone, done, sentData, sent]
    | false =>
      have later := ih (by simpa [done] using found)
      rw [sentData, scanLine_eq (Bool.or_eq_false_iff.mp done).1]
      rw [dataBeforeDone] at later ⊢
      cases sent : dataOf? first with
      | none | some => simpa [done, sent] using later

/-- The data before the first end mark are handled, each once and in their order, before the
function returns, and it can return from everywhere, exactly when this mark is in a `data:` line. -/
theorem stream_scanner_exact (lines : List Line) (pinging : Bool) :
    (∀ workers : List Worker,
      let final := run StreamState.step { lines, pinging } workers
      (final.main = .returned → final.handled = dataBeforeDone lines ∧
        final.endReason = some (if lines.any isDoneLine then .done else .eof)) ∧
      ∃ later, (run StreamState.step final later).main = .returned) ↔
    ∀ line ∈ lines.find? isDoneLine, line.startsWith "[DONE]" = false := by
  have inv (workers) : (run StreamState.step { lines, pinging } workers).Inv lines :=
    run_invariant_of_all (fun _ worker inv => inv.step worker) workers
      ⟨rfl, ⟨rfl, rfl, rfl⟩, nofun, nofun, nofun⟩
  constructor
  · intro all line found
    obtain ⟨workers, back⟩ := (all []).2
    by_contra bare
    have longer := length_dataBeforeDone_lt found (Bool.eq_true_of_not_eq_false bare)
    rw [← ((all workers).1 back).1, ((inv workers).final back).1] at longer
    exact absurd longer (Nat.lt_irrefl _)
  · intro bare workers
    obtain ⟨data, reason⟩ := sentData_eq bare
    refine ⟨fun back => ?_, (inv workers).returns⟩
    rw [← data, ← reason]
    exact (inv workers).final back

/-- A run to the end of a stream without pings and with one line of data. -/
def wholeRun : List Worker :=
  [.scanner false, .scanner false, .handler, .scanner false, .handler, .scanner false,
   .scanner false, .scanner false, .main, .handler, .handler, .handler, .main]

theorem stream_scanner_exact_end :
    let final := run StreamState.step
      { lines := ["data: a".toList, "data: [DONE]".toList], pinging := false } wholeRun
    final.main = .returned ∧ final.handled = ["a".toList] ∧ final.endReason = some .done :=
  ⟨by decide +kernel, ((stream_scanner_exact _ false).mpr (by decide +kernel) wholeRun).1
    (by decide +kernel)⟩

/-- The end mark on a line of its own loses five characters as if it were data, and its rest is
handled. -/
theorem bare_end_mark_handled :
    let final := run StreamState.step { lines := ["[DONE]".toList], pinging := false } wholeRun
    final.main = .returned ∧ final.handled = ["]".toList] ∧ final.endReason = some .eof ∧
      dataBeforeDone ["[DONE]".toList] = [] ∧ isDoneLine "[DONE]".toList = true := by
  decide +kernel

/-- The goroutines handle what one loop over the lines would: at any time a first part, and all at
the end, which stays in reach. -/
theorem stream_scanner_sequential (lines : List Line) (pinging : Bool) (workers : List Worker) :
    let state := run StreamState.step { lines, pinging } workers
    state.handled <+: sentData lines ∧ ∃ later,
      let final := run StreamState.step state later
      final.main = .returned ∧ final.handled = sentData lines := by
  intro state
  have kept (state) := @run_invariant_of_all _ _ StreamState.step (·.Inv lines)
    (fun _ worker inv => inv.step worker) state
  have inv := kept { lines, pinging } workers ⟨rfl, ⟨rfl, rfl, rfl⟩, nofun, nofun, nofun⟩
  obtain ⟨later, back⟩ := inv.returns
  refine ⟨?_, later, back, ((kept state later inv).final back).1⟩
  rw [← inv.data, append_assoc, append_assoc]
  exact prefix_append _ _

end StuHelper.Relay
