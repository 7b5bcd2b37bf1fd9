import Mathlib.Logic.Function.Basic
import StreamBox.Lib.TSys

/-!
# Logs of extensions

Two tasks of `collect_logs` read the lines of a process, one its output and one its errors, and
flush them in batches into one buffer of 200 lines.

* **Logs** — `logs_recent`: in whatever order the tasks come, what `logs` answers is the end of one
  order of the flushed lines, in which the lines of each stream are in their own order; a task keeps
  at most 16 lines back, and none once its stream has ended.
-/

namespace StreamBox.Extensions

open StreamBox.Lib

def logBufferSize : Nat := 200

def logBatchSize : Nat := 16

inductive Stream
  | stdout
  | stderr
  deriving DecidableEq, Repr

/-- Where a collector is: at the next line, at a flush, or over. -/
inductive Collecting
  | reading
  /-- The batch is full, or it is the last one. -/
  | flushing (last : Bool)
  | done
  | failed
  deriving DecidableEq, Repr

structure LogState where
  logs : List String
  point : Stream → Collecting
  localBuffer : Stream → List String
  /-- The lines that have been read so far. -/
  linesRead : Stream → List String

namespace LogState

def new : LogState where
  logs := []
  point _ := .reading
  localBuffer _ := []
  linesRead _ := []

/-- `push_back`, after a `pop_front` if the buffer is full. -/
def pushLine (logs : List String) (line : String) : List String :=
  (if logBufferSize ≤ logs.length then logs.tail else logs) ++ [line]

def flushLogs (logs buffer : List String) : List String := buffer.foldl pushLine logs

/-- What `logs` answers. -/
def recent (s : LogState) (lines : Nat) : List String := s.logs.drop (s.logs.length - lines)

def moveTo (s : LogState) (k : Stream) (state : Collecting) : LogState :=
  { s with point := Function.update s.point k state }

/-- The next line of a stream. -/
def readLine (s : LogState) (k : Stream) (line : String) : LogState :=
  let buffer := s.localBuffer k ++ [line]
  let s :=
    { s with
      localBuffer := Function.update s.localBuffer k buffer
      linesRead := Function.update s.linesRead k (s.linesRead k ++ [line]) }
  if logBatchSize ≤ buffer.length then s.moveTo k (.flushing false) else s

end LogState

inductive LogEvent
  | line (k : Stream) (line : String)
  | flush (k : Stream)
  | ends (k : Stream)
  | error (k : Stream)

def LogState.next (s : LogState) : LogEvent → Option LogState
  | .line k line => if s.point k = .reading then some (s.readLine k line) else none
  | .flush k =>
    match s.point k with
    | .flushing last =>
      some <| LogState.moveTo
        { s with
          logs := flushLogs s.logs (s.localBuffer k)
          localBuffer := Function.update s.localBuffer k [] }
        k (if last then .done else .reading)
    | _ => none
  | .ends k =>
    if s.point k = .reading then
      some (s.moveTo k (if s.localBuffer k = [] then .done else .flushing true))
    else none
  | .error k => if s.point k = .reading then some (s.moveTo k .failed) else none

def logSystem : TSys LogState LogEvent := .ofFn (fun s => s = .new) LogState.next

/-! ## The end of a list -/

section

variable {α : Type}

/-- The last elements of a list. -/
def lastOf (n : Nat) (l : List α) : List α := l.drop (l.length - n)

theorem length_lastOf (n : Nat) (l : List α) : (lastOf n l).length = min n l.length := by
  rw [lastOf, List.length_drop]
  omega

theorem lastOf_lastOf (n m : Nat) (l : List α) : lastOf n (lastOf m l) = lastOf (min n m) l := by
  unfold lastOf
  rw [List.drop_drop, List.length_drop]
  congr 1
  omega

/-- An element more at the end of a buffer with a bound. -/
theorem lastOf_concat {n : Nat} (hn : 0 < n) (l : List α) (a : α) :
    lastOf n (l ++ [a]) =
      (if n ≤ (lastOf n l).length then (lastOf n l).tail else lastOf n l) ++ [a] := by
  rw [length_lastOf]
  unfold lastOf
  rw [List.length_append, List.length_singleton]
  by_cases hfull : n ≤ l.length
  · rw [if_pos (by omega), List.tail_drop, List.drop_append_of_le_length (by omega)]
    congr 2
    omega
  · rw [if_neg (by omega), List.drop_append_of_le_length (by omega)]
    congr 2
    omega

end

/-- A batch is pushed onto the end of what has been flushed. -/
theorem flushLogs_lastOf (buffer : List String) : ∀ flushed : List String,
    LogState.flushLogs (lastOf logBufferSize flushed) buffer
      = lastOf logBufferSize (flushed ++ buffer) := by
  induction buffer with
  | nil =>
    intro flushed
    rw [LogState.flushLogs, List.foldl_nil, List.append_nil]
  | cons line rest ih =>
    intro flushed
    have hpush : LogState.pushLine (lastOf logBufferSize flushed) line
        = lastOf logBufferSize (flushed ++ [line]) := (lastOf_concat (by decide) flushed line).symm
    rw [LogState.flushLogs, List.foldl_cons, hpush]
    refine (ih (flushed ++ [line])).trans ?_
    rw [List.append_assoc, List.singleton_append]

/-! ## Every run -/

/-- The lines of a stream in an order of the lines of both. -/
def linesOf (k : Stream) (order : List (Stream × String)) : List String :=
  (order.filter fun entry => decide (entry.1 = k)).map Prod.snd

theorem linesOf_append (k : Stream) (a b : List (Stream × String)) :
    linesOf k (a ++ b) = linesOf k a ++ linesOf k b := by
  rw [linesOf, List.filter_append, List.map_append]
  rfl

theorem linesOf_batch (k k' : Stream) (lines : List String) :
    linesOf k (lines.map fun line => (k', line)) = if k' = k then lines else [] := by
  induction lines with
  | nil => simp [linesOf]
  | cons line rest ih =>
    have hcons : (line :: rest).map (fun line => (k', line))
        = [(k', line)] ++ rest.map fun line => (k', line) := rfl
    rw [hcons, linesOf_append, ih]
    by_cases h : k' = k
    · simp [linesOf, h]
    · simp [linesOf, h]

/-- What a collector keeps back. -/
def Kept (buffer : List String) : Collecting → Prop
  | .reading => buffer.length < logBatchSize
  | .flushing _ | .failed => buffer.length ≤ logBatchSize
  | .done => buffer = []

theorem Kept.length_le {buffer : List String} {point : Collecting} (h : Kept buffer point) :
    buffer.length ≤ logBatchSize := by
  cases point with
  | reading => exact Nat.le_of_lt h
  | flushing | failed => exact h
  | done =>
    rw [show buffer = [] from h]
    exact Nat.zero_le _

/-- The lines of this order have been flushed; the collectors keep the rest. -/
structure Flushed (order : List (Stream × String)) (s : LogState) : Prop where
  logs : s.logs = lastOf logBufferSize (order.map Prod.snd)
  lines : ∀ k, s.linesRead k = linesOf k order ++ s.localBuffer k
  kept : ∀ k, Kept (s.localBuffer k) (s.point k)

/-- The stream moves on with what it keeps. -/
theorem Flushed.move {order : List (Stream × String)} {s : LogState} (h : Flushed order s)
    (k : Stream) {point : Collecting} (hkept : Kept (s.localBuffer k) point) :
    Flushed order (s.moveTo k point) := by
  refine ⟨h.logs, h.lines, fun k' => ?_⟩
  by_cases hk : k' = k
  · subst hk
    show Kept (s.localBuffer k') (Function.update s.point k' point k')
    rwa [Function.update_self]
  · show Kept (s.localBuffer k') (Function.update s.point k point k')
    rw [Function.update_of_ne hk]
    exact h.kept k'

theorem Flushed.next {order : List (Stream × String)} {s t : LogState} {event : LogEvent}
    (h : Flushed order s) (hnext : s.next event = some t) : ∃ order', Flushed order' t := by
  cases event with
  | line k line =>
    simp only [LogState.next] at hnext
    split at hnext
    · rename_i hreading
      cases hnext
      have hlt : (s.localBuffer k).length < logBatchSize := by
        have hkept := h.kept k
        rwa [hreading] at hkept
      have hlength : (s.localBuffer k ++ [line]).length ≤ logBatchSize := by
        rw [List.length_append, List.length_singleton]
        omega
      -- the line is read before the batch is looked at
      have hread : ∀ point, Kept (s.localBuffer k ++ [line]) point → Flushed order
          { s with
            point := Function.update s.point k point
            localBuffer := Function.update s.localBuffer k (s.localBuffer k ++ [line])
            linesRead := Function.update s.linesRead k (s.linesRead k ++ [line]) } := by
        intro point hkept
        refine ⟨h.logs, fun k' => ?_, fun k' => ?_⟩
        · dsimp only
          by_cases hk : k' = k
          · subst hk
            rw [Function.update_self, Function.update_self, h.lines, List.append_assoc]
          · rw [Function.update_of_ne hk, Function.update_of_ne hk, h.lines]
        · dsimp only
          by_cases hk : k' = k
          · subst hk
            rwa [Function.update_self, Function.update_self]
          · rw [Function.update_of_ne hk, Function.update_of_ne hk]
            exact h.kept k'
      refine ⟨order, ?_⟩
      unfold LogState.readLine
      dsimp only
      split
      · exact hread _ hlength
      · rename_i hshort
        have hsame := hread .reading (Nat.lt_of_not_le hshort)
        rwa [← hreading, Function.update_eq_self] at hsame
    · cases hnext
  | flush k =>
    simp only [LogState.next] at hnext
    split at hnext
    · rename_i last hflushing
      cases hnext
      refine ⟨order ++ (s.localBuffer k).map fun line => (k, line), ?_⟩
      refine Flushed.move (s := { s with
        logs := LogState.flushLogs s.logs (s.localBuffer k)
        localBuffer := Function.update s.localBuffer k [] }) ⟨?_, fun k' => ?_, fun k' => ?_⟩ k ?_
      · show LogState.flushLogs s.logs (s.localBuffer k) = _
        rw [h.logs, flushLogs_lastOf, List.map_append, List.map_map]
        congr 2
        exact (List.map_id' _).symm
      · rw [linesOf_append, linesOf_batch]
        dsimp only
        by_cases hk : k' = k
        · subst hk
          rw [Function.update_self, if_pos rfl, List.append_nil, h.lines]
        · rw [Function.update_of_ne hk, if_neg (Ne.symm hk), List.append_nil, h.lines]
      · dsimp only
        by_cases hk : k' = k
        · subst hk
          rw [Function.update_self, hflushing]
          exact Nat.zero_le _
        · rw [Function.update_of_ne hk]
          exact h.kept k'
      · dsimp only
        rw [Function.update_self]
        cases last with
        | true => rfl
        | false => exact Nat.zero_lt_succ _
    · cases hnext
  | ends k =>
    simp only [LogState.next] at hnext
    split at hnext
    · cases hnext
      refine ⟨order, h.move k ?_⟩
      split
      · assumption
      · exact (h.kept k).length_le
    · cases hnext
  | error k =>
    simp only [LogState.next] at hnext
    split at hnext
    · cases hnext
      exact ⟨order, h.move k (h.kept k).length_le⟩
    · cases hnext

/-- **Logs.** In every run there is an order of the lines that have been flushed, each stream's in
its own order, whose last lines are what is asked for; a collector keeps back at most one batch, and
nothing once its stream has ended. -/
theorem logs_recent {s : LogState} (h : logSystem.Reachable s) :
    ∃ order : List (Stream × String),
      (∀ lines, s.recent lines = lastOf (min lines logBufferSize) (order.map Prod.snd)) ∧
      (∀ k, s.linesRead k = linesOf k order ++ s.localBuffer k) ∧
      ∀ k, (s.localBuffer k).length ≤ logBatchSize ∧
        (s.point k = .done → s.localBuffer k = []) := by
  have hflushed : ∃ order, Flushed order s := by
    refine TSys.invariant (I := fun s => ∃ order, Flushed order s) ?_ ?_ h
    · rintro s rfl
      exact ⟨[], rfl, fun k => rfl, fun k => Nat.zero_lt_succ _⟩
    · rintro s event t ⟨order, hinv⟩ hstep
      exact hinv.next hstep
  obtain ⟨order, hlogs, hlines, hkept⟩ := hflushed
  refine ⟨order, fun lines => ?_, hlines, fun k => ⟨(hkept k).length_le, fun hdone => ?_⟩⟩
  · rw [← lastOf_lastOf, ← hlogs]
    rfl
  · have hkept := hkept k
    rwa [hdone] at hkept

/-- Two lines and an error, of which the first stream has ended. -/
theorem logs_two : ∃ s, logSystem.Reachable s ∧ s.recent 1 = ["b"] ∧ ∃ order,
    s.recent 1 = lastOf (min 1 logBufferSize) (order.map Prod.snd) ∧
    linesOf .stdout order = ["a", "b"] := by
  let events : List LogEvent :=
    [.line .stdout "a", .line .stderr "x", .line .stdout "b", .ends .stdout, .flush .stdout]
  have hrun : ((events.foldlM LogState.next .new).any fun s => s.recent 1 == ["b"] &&
      s.point .stdout == .done && s.linesRead .stdout == ["a", "b"]) = true := by decide
  obtain ⟨s, hs, hend⟩ := (Option.any_eq_true _ _).mp hrun
  simp only [Bool.and_eq_true, beq_iff_eq] at hend
  have hreachable : logSystem.Reachable s := TSys.ofFn_reachable (.init rfl) hs
  obtain ⟨order, hrecent, hlines, hkept⟩ := logs_recent hreachable
  refine ⟨s, hreachable, hend.1.1, order, hrecent 1, ?_⟩
  have hall := hlines .stdout
  rw [(hkept .stdout).2 hend.1.2, List.append_nil] at hall
  rw [← hall]
  exact hend.2

end StreamBox.Extensions
