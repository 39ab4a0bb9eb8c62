import Mathlib.Data.Nat.Notation
import Mathlib.Logic.Relation
import RiskBoard.Poll

/-!
# Polling on a clock

`Poll.Step` is the scheduler with its fetches on a virtual clock, one thing at a time: the ticker
fires and issues a fetch of each kind that is polled, a fetch is answered, or a millisecond passes.
Code takes no time, so the clock stands as long as anything is due. What is due at one time may
happen in any order, and fetches outlive ticks: any number of them run at once.

At one time only finitely many things can happen (`Poll.Step.todo_lt`), since a ticker that has
fired is due later. So a run that never ends comes to every time.
-/

namespace RiskBoard.Poll

/-- A fetch of a kind, with the number of fetches of the kind before it. -/
structure Fetch where
  kind : Kind
  number : ℕ
deriving DecidableEq

/-- What a source answers to a fetch. -/
def Fetch.replyOf (source : Source) (fetch : Fetch) : Reply := source.reply fetch.kind fetch.number

/-! ### What can happen -/

/-- The scheduler and its fetches between two things that happen. -/
structure State where
  now : ℕ
  /-- When the ticker fires next. -/
  due : ℕ
  /-- The fetches that were issued, each at its time. -/
  issued : List (Timed Fetch)
  /-- The fetches that run, each at the time at which it will be answered. -/
  running : List (Timed Fetch)
  /-- The fetches that were answered, with a snapshot or not, each at the time of the answer. -/
  answered : List (Timed Fetch)
  /-- The snapshots that were sent, each at its time and with its fetch. -/
  sent : List (Timed (Fetch × Snapshot))

namespace State

/-- The scheduler when it is started. The ticker fires at once. -/
def initial (start : ℕ) : State := ⟨start, start, [], [], [], []⟩

/-- Nothing is due. -/
structure IsSettled (s : State) : Prop where
  ticker : s.now < s.due
  fetches : ∀ fetch ∈ s.running, s.now < fetch.time

/-- The snapshots that were sent for a fetch. -/
def sentFor (s : State) (fetch : Fetch) : List (Timed (Fetch × Snapshot)) :=
  s.sent.filter (·.value.1 = fetch)

end State

variable {interval : ℕ} {replies : Fetch → Reply} {s t : State}

/-- When a fetch that is issued will be answered. -/
def answerOf (replies : Fetch → Reply) (fetch : Timed Fetch) : Timed Fetch :=
  ⟨fetch.time + (replies fetch.value).latency, fetch.value⟩

/-- What is sent for a fetch that is answered. -/
def sending? (replies : Fetch → Reply) (fetch : Timed Fetch) :
    Option (Timed (Fetch × Snapshot)) :=
  (replies fetch.value).result.map fun snapshot => ⟨fetch.time, fetch.value, snapshot⟩

/-- Issues a fetch of a kind. -/
def State.issue (replies : Fetch → Reply) (s : State) (kind : Kind) : State :=
  let fetch : Timed Fetch := ⟨s.now, kind, s.issued.countP (·.value.kind = kind)⟩
  { s with issued := s.issued ++ [fetch], running := s.running ++ [answerOf replies fetch] }

/-- What happens when the ticker fires. -/
def State.tick (interval : ℕ) (replies : Fetch → Reply) (s : State) : State :=
  kinds.foldl (State.issue replies) { s with due := s.now + period interval }

/-- What happens when a fetch is answered, which leaves others running. -/
def State.answer (replies : Fetch → Reply) (s : State) (left : List (Timed Fetch))
    (fetch : Fetch) : State :=
  { s with
    running := left
    answered := s.answered ++ [⟨s.now, fetch⟩]
    sent := s.sent ++ (sending? replies ⟨s.now, fetch⟩).toList }

/-- What can happen next. A ticker that fires late is due one interval after it fired. -/
inductive Step (interval : ℕ) (replies : Fetch → Reply) (s : State) : State → Prop
  | tick (h : s.due ≤ s.now) : Step interval replies s (s.tick interval replies)
  | answer (before after : List (Timed Fetch)) (fetch : Timed Fetch)
    (hrunning : s.running = before ++ fetch :: after) (h : fetch.time ≤ s.now) :
    Step interval replies s (s.answer replies (before ++ after) fetch.value)
  | wait (h : s.IsSettled) : Step interval replies s { s with now := s.now + 1 }

/-- Any number of steps from one state to another. -/
def Run (interval : ℕ) (replies : Fetch → Reply) : State → State → Prop :=
  Relation.ReflTransGen (Step interval replies)

/-! ### The clock moves on -/

theorem period_pos (interval : ℕ) : 0 < period interval := Nat.le_max_right interval 1

/-- What is left to do at one time: the ticker may fire, which issues two fetches, and fetches may
be answered. -/
def State.todo (s : State) : ℕ := s.running.length + if s.due ≤ s.now then 3 else 0

/-- In a settled state nothing can happen but that time passes. -/
theorem Step.eq_of_settled (h : Step interval replies s t) (hs : s.IsSettled) :
    t = { s with now := s.now + 1 } := by
  obtain hlate | ⟨before, after, fetch, hrunning, hlate⟩ | - := h
  · exact absurd hlate (Nat.not_le_of_lt hs.ticker)
  · have hmem : fetch ∈ s.running := hrunning ▸ List.mem_append_cons_self
    exact absurd hlate (Nat.not_le_of_lt (hs.fetches fetch hmem))
  · rfl

/-- In any other state time stands, and something of what is left is done. -/
theorem Step.todo_lt (h : Step interval replies s t) (hs : ¬ s.IsSettled) :
    t.now = s.now ∧ t.todo < s.todo := by
  obtain hlate | ⟨before, after, fetch, hrunning, -⟩ | hsettled := h
  · have hpos := period_pos interval
    have hlater : ¬ s.now + period interval ≤ s.now := by omega
    have htodo : (s.tick interval replies).todo = s.running.length + 2 := by
      simp [State.todo, State.tick, kinds, State.issue, hlater]
    refine ⟨rfl, ?_⟩
    rw [htodo, State.todo, if_pos hlate]
    omega
  · have hleft : (before ++ after).length < s.running.length := by
      rw [hrunning]
      simp
    exact ⟨rfl, Nat.add_lt_add_right hleft _⟩
  · exact absurd hsettled hs

/-- As long as something is due, something can happen. -/
theorem exists_step_of_not_settled (interval : ℕ) (replies : Fetch → Reply)
    (hs : ¬ s.IsSettled) : ∃ t, Step interval replies s t := by
  by_cases hdue : s.due ≤ s.now
  · exact ⟨_, .tick hdue⟩
  · by_cases hlate : ∃ fetch ∈ s.running, fetch.time ≤ s.now
    · obtain ⟨fetch, hmem, hlate⟩ := hlate
      obtain ⟨before, after, hrunning⟩ := List.append_of_mem hmem
      exact ⟨_, .answer before after fetch hrunning hlate⟩
    · refine absurd ⟨Nat.lt_of_not_le hdue, fun fetch hmem => ?_⟩ hs
      exact Nat.lt_of_not_le fun hle => hlate ⟨fetch, hmem, hle⟩

theorem exists_run_settled_now (interval : ℕ) (replies : Fetch → Reply) (s : State) :
    ∃ t, Run interval replies s t ∧ t.IsSettled ∧ t.now = s.now := by
  by_cases hs : s.IsSettled
  · exact ⟨s, .refl, hs, rfl⟩
  · obtain ⟨t, hstep⟩ := exists_step_of_not_settled interval replies hs
    obtain ⟨hnow, htodo⟩ := hstep.todo_lt hs
    obtain ⟨u, hrun, hu, hsame⟩ := exists_run_settled_now interval replies t
    exact ⟨u, .head hstep hrun, hu, hsame.trans hnow⟩
termination_by s.todo

/-- From every state a settled one can be reached at every later time. -/
theorem exists_run_settled (interval : ℕ) (replies : Fetch → Reply) (s : State) {time : ℕ}
    (h : s.now ≤ time) : ∃ t, Run interval replies s t ∧ t.IsSettled ∧ t.now = time := by
  induction h with
  | refl => exact exists_run_settled_now interval replies s
  | step _ ih =>
    obtain ⟨t, hrun, ht, hnow⟩ := ih
    obtain ⟨u, hnext, hu, hlater⟩ :=
      exists_run_settled_now interval replies { t with now := t.now + 1 }
    exact ⟨u, (hrun.tail (.wait ht)).trans hnext, hu, hlater.trans (congrArg _ hnow)⟩

theorem exists_settled_now {states : ℕ → State}
    (h : ∀ k, Step interval replies (states k) (states (k + 1))) (k : ℕ) :
    ∃ l, (states l).IsSettled ∧ (states l).now = (states k).now := by
  by_cases hs : (states k).IsSettled
  · exact ⟨k, hs, rfl⟩
  · obtain ⟨hnow, htodo⟩ := (h k).todo_lt hs
    obtain ⟨l, hl, hsame⟩ := exists_settled_now h (k + 1)
    exact ⟨l, hl, hsame.trans hnow⟩
termination_by (states k).todo

/-- A run that never ends is settled at every time: it cannot stay at one. -/
theorem exists_settled {states : ℕ → State}
    (h : ∀ k, Step interval replies (states k) (states (k + 1))) {time : ℕ}
    (htime : (states 0).now ≤ time) : ∃ k, (states k).IsSettled ∧ (states k).now = time := by
  induction htime with
  | refl => exact exists_settled_now h 0
  | step _ ih =>
    obtain ⟨k, hk, hnow⟩ := ih
    obtain ⟨l, hl, hlater⟩ := exists_settled_now h (k + 1)
    refine ⟨l, hl, ?_⟩
    rw [hlater, (h k).eq_of_settled hk, hnow]

end RiskBoard.Poll
