import Mathlib.Data.List.Basic
/-
  Shingo.Lifecycle.Stop — `Stop` and the loop goroutine of the five long-running
  components, under any interleaving of `Stop` calls with one another and with the loop.
  Three implementations of `Stop` are in the source:
  - `once`: `stopOnce.Do(func() { close(stopCh) })` (`Heartbeater`, `CoreHandler`'s
    stale-edge loop). `sync.Once` runs the close in the first call only, and the other
    calls wait for it, so a call is one atomic step.
  - `checkThenClose`: `select { case <-stopChan: default: close(stopChan) }` and then
    `wg.Wait()` (the edge `OutboxDrainer`). The check and the close are two steps.
  - `trySend`: `select { case stopChan <- struct{}{}: default: }` (the core
    `OutboxDrainer`, the rds `Poller`). The channel is unbuffered: the send succeeds only
    if the loop is blocked in its `select` at that moment, and the loop then returns.
  The loop is blocked in `select { case <-stop: return; case <-ticker.C: work }`, or
  running a tick's work. Go picks either ready case, so a tick may start while the stop
  case is ready.

  Proved:
  - `stop_lost_or_panics`: with `checkThenClose`, two overlapping calls both see the
    channel open and the second close panics; with `trySend`, a call made while the loop
    is busy returns having done nothing, and with no later call the loop never returns.
-/

namespace Shingo.Lifecycle

inductive StopKind where
  | once
  | checkThenClose
  | trySend
  deriving DecidableEq, Repr

/-- The long-running components with a `Stop` and a loop goroutine. -/
inductive Component where
  | edgeOutboxDrainer
  | coreOutboxDrainer
  | poller
  | heartbeater
  | coreHandler
  deriving DecidableEq, Repr

def Component.stopKind : Component → StopKind
  | .edgeOutboxDrainer => .checkThenClose
  | .coreOutboxDrainer => .trySend
  | .poller => .trySend
  | .heartbeater => .once
  | .coreHandler => .once

/-- Where the loop goroutine is. -/
inductive LoopPc where
  | select
  | busy
  | returned
  deriving DecidableEq, Repr

/-- Where one `Stop` call is. -/
inductive CallPc where
  | entered
  /-- `checkThenClose` saw the channel open; its close is next. -/
  | closing
  /-- `checkThenClose` is in `wg.Wait()`. -/
  | waiting
  | returned
  | panicked
  deriving DecidableEq, Repr

structure LSt where
  closed : Bool
  loop : LoopPc
  calls : List CallPc
  deriving DecidableEq, Repr

def LSt.init : LSt := ⟨false, .select, []⟩

inductive LAct where
  /-- Another goroutine calls `Stop`. -/
  | stop
  /-- `Stop` call `i` takes its next step. -/
  | call (i : Nat)
  /-- The loop takes the ticker case. -/
  | tick
  /-- The loop's tick work ends; it is back in `select`. -/
  | tickDone
  /-- The loop takes the stop case of a closed channel and returns. -/
  | exit
  deriving DecidableEq, Repr

section
variable (k : StopKind)

/-- Call `i`'s next step; a call that has returned or panicked takes none. -/
def callStep (s : LSt) (i : Nat) : CallPc → LSt
  | .entered =>
    match k with
    | .once => { s with closed := true, calls := s.calls.set i .returned }
    | .checkThenClose => { s with calls := s.calls.set i (if s.closed then .waiting else .closing) }
    | .trySend =>
      if s.loop = .select then { s with loop := .returned, calls := s.calls.set i .returned }
      else { s with calls := s.calls.set i .returned }
  | .closing =>
    if s.closed then { s with calls := s.calls.set i .panicked }
    else { s with closed := true, calls := s.calls.set i .waiting }
  | .waiting => if s.loop = .returned then { s with calls := s.calls.set i .returned } else s
  | _ => s

def lstep (s : LSt) : LAct → LSt
  | .stop => { s with calls := s.calls ++ [.entered] }
  | .call i =>
    match s.calls[i]? with
    | some c => callStep k s i c
    | none => s
  | .tick => if s.loop = .select then { s with loop := .busy } else s
  | .tickDone => if s.loop = .busy then { s with loop := .select } else s
  | .exit => if s.loop = .select ∧ s.closed then { s with loop := .returned } else s

def lrun (s : LSt) (acts : List LAct) : LSt := acts.foldl (lstep k) s

end

/-- The code paths of one action, for a `Stop` of kind `k`. -/
inductive LStepPath : StopKind → LSt → LAct → LSt → Prop
  | skip {k : StopKind} {s : LSt} {a : LAct} : LStepPath k s a s
  | stop {k : StopKind} {s : LSt} : LStepPath k s .stop { s with calls := s.calls ++ [.entered] }
  /-- `stopOnce.Do`: the first call closes; a later one finds the close done. -/
  | onceClose {s : LSt} {i : Nat} : s.calls[i]? = some .entered →
      LStepPath .once s (.call i) { s with closed := true, calls := s.calls.set i .returned }
  /-- The `select` of `checkThenClose`: an open channel goes on to the close. -/
  | check {s : LSt} {i : Nat} : s.calls[i]? = some .entered →
      LStepPath .checkThenClose s (.call i)
        { s with calls := s.calls.set i (if s.closed then .waiting else .closing) }
  | close {k : StopKind} {s : LSt} {i : Nat} : s.calls[i]? = some .closing → s.closed = false →
      LStepPath k s (.call i) { s with closed := true, calls := s.calls.set i .waiting }
  /-- `close` of a closed channel. -/
  | panic {k : StopKind} {s : LSt} {i : Nat} : s.calls[i]? = some .closing → s.closed = true →
      LStepPath k s (.call i) { s with calls := s.calls.set i .panicked }
  | waitDone {k : StopKind} {s : LSt} {i : Nat} : s.calls[i]? = some .waiting → s.loop = .returned →
      LStepPath k s (.call i) { s with calls := s.calls.set i .returned }
  /-- The send meets the loop in its `select`. -/
  | handoff {s : LSt} {i : Nat} : s.calls[i]? = some .entered → s.loop = .select →
      LStepPath .trySend s (.call i) { s with loop := .returned, calls := s.calls.set i .returned }
  /-- The send finds no receiver and takes `default`. -/
  | dropped {s : LSt} {i : Nat} : s.calls[i]? = some .entered → s.loop ≠ .select →
      LStepPath .trySend s (.call i) { s with calls := s.calls.set i .returned }
  | tick {k : StopKind} {s : LSt} : s.loop = .select → LStepPath k s .tick { s with loop := .busy }
  | tickDone {k : StopKind} {s : LSt} : s.loop = .busy → LStepPath k s .tickDone { s with loop := .select }
  | exit {k : StopKind} {s : LSt} : s.loop = .select → s.closed = true →
      LStepPath k s .exit { s with loop := .returned }

theorem lstepPath (k : StopKind) (s : LSt) (a : LAct) : LStepPath k s a (lstep k s a) := by
  cases a with
  | stop => exact .stop
  | call i =>
    simp only [lstep]; split
    · next c hc =>
      cases c with
      | entered =>
        cases k with
        | once => exact .onceClose hc
        | checkThenClose => exact .check hc
        | trySend => simp only [callStep]; split; exacts [.handoff hc ‹_›, .dropped hc ‹_›]
      | closing =>
        simp only [callStep]; split
        · next hcl => exact .panic hc hcl
        · next hcl => exact .close hc (by simpa using hcl)
      | waiting => simp only [callStep]; split; exacts [.waitDone hc ‹_›, .skip]
      | _ => exact .skip
    · exact .skip
  | tick => simp only [lstep]; split; exacts [.tick ‹_›, .skip]
  | tickDone => simp only [lstep]; split; exacts [.tickDone ‹_›, .skip]
  | exit =>
    simp only [lstep]; split
    · next h => exact .exit h.1 h.2
    · exact .skip

/-! ## A dropped send -/

/-- No call is pending, the channel is open and the loop has not returned. -/
def Lost (s : LSt) : Prop := s.closed = false ∧ s.loop ≠ .returned ∧ ∀ c ∈ s.calls, c = .returned

theorem lost_step {s : LSt} (h : Lost s) {a : LAct} (ha : a ≠ .stop) : Lost (lstep .trySend s a) := by
  obtain ⟨hc, hl, hr⟩ := h
  have hp := lstepPath .trySend s a
  generalize lstep .trySend s a = s' at hp ⊢
  cases hp with
  | skip => exact ⟨hc, hl, hr⟩
  | stop => exact absurd rfl ha
  | close hci => cases hr _ (List.getElem?_mem hci)
  | panic hci => cases hr _ (List.getElem?_mem hci)
  | waitDone hci => cases hr _ (List.getElem?_mem hci)
  | handoff hci => cases hr _ (List.getElem?_mem hci)
  | dropped hci => cases hr _ (List.getElem?_mem hci)
  | tick => exact ⟨hc, nofun, hr⟩
  | tickDone => exact ⟨hc, nofun, hr⟩
  | exit _ hcl => rw [hc] at hcl; cases hcl

theorem lost_run {s : LSt} (h : Lost s) (acts : List LAct) (hacts : ∀ a ∈ acts, a ≠ .stop) :
    Lost (lrun .trySend s acts) := by
  induction acts generalizing s with
  | nil => exact h
  | cons a acts ih => exact ih (lost_step h (hacts a (.head _))) fun b hb => hacts b (.tail _ hb)

/-- In the edge `OutboxDrainer`, two overlapping `Stop` calls both find the channel open and
    the second close panics. In the core `OutboxDrainer` and the `Poller`, a `Stop` made
    while the loop runs a tick returns having done nothing, and unless `Stop` is called
    again the loop never returns. -/
theorem stop_lost_or_panics :
    (lrun Component.edgeOutboxDrainer.stopKind LSt.init [.stop, .stop, .call 0, .call 1, .call 0, .call 1]).calls =
        [.waiting, .panicked] ∧
      ∀ c ∈ [Component.coreOutboxDrainer, Component.poller],
        let s := lrun c.stopKind LSt.init [.tick, .stop, .call 0]
        s.calls = [.returned] ∧ ∀ acts, (∀ a ∈ acts, a ≠ .stop) → (lrun c.stopKind s acts).loop ≠ .returned := by
  refine ⟨by decide, fun c hc => ?_⟩
  have hk : c.stopKind = .trySend := by
    rcases List.mem_cons.mp hc with rfl | hc
    · rfl
    · rw [List.mem_singleton.mp hc]; rfl
  rw [hk]
  exact ⟨by decide, fun acts hacts => (lost_run ⟨rfl, by decide, by decide⟩ acts hacts).2.1⟩

end Shingo.Lifecycle
