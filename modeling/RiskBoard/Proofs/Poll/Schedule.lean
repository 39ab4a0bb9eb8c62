import Mathlib.Data.List.Perm.Basic
import RiskBoard.Proofs.Poll.Clock
import RiskBoard.Proofs.Timeline

/-!
# The schedule of polling

No fetch is waited for. Every step keeps the times of the ticks, of the fetches that run and of
those that were answered (`Poll.IsOnSchedule`), and from this it is read off for each fetch alone
when it is issued and when its snapshot is sent. In settled states, where nothing is due, the
timelines `Poll.calls` and `Poll.deliveries` say the same of all fetches together.
-/

namespace RiskBoard.Poll

variable {interval start n : ℕ} {replies : Fetch → Reply} {s t : State}

/-! ### What is scheduled -/

/-- The fetches of the first `n` ticks, when the ticker fires at the start and then at equal
gaps. -/
def schedule (gap start n : ℕ) : List (Timed Fetch) :=
  (List.range n).flatMap fun k => [⟨start + k * gap, .portfolio, k⟩, ⟨start + k * gap, .risk, k⟩]

theorem schedule_succ (gap start n : ℕ) : schedule gap start (n + 1) = schedule gap start n ++
    [⟨start + n * gap, .portfolio, n⟩, ⟨start + n * gap, .risk, n⟩] := by
  simp [schedule, List.range_succ]

theorem schedule_prefix (gap start : ℕ) {m n : ℕ} (h : m ≤ n) :
    schedule gap start m <+: schedule gap start n := by
  induction h with
  | refl => exact List.prefix_rfl
  | step _ ih =>
    rw [schedule_succ]
    exact ih.trans (List.prefix_append _ _)

/-- As many fetches of a polled kind were issued as there were ticks. -/
theorem countP_schedule (gap start n : ℕ) {kind : Kind} (hkind : kind ∈ kinds) :
    (schedule gap start n).countP (·.value.kind = kind) = n := by
  induction n with
  | zero => rfl
  | succ n ih =>
    rw [schedule_succ, List.countP_append, ih]
    rcases kind with _ | _ | _
    · rfl
    · rfl
    · exact absurd hkind (by decide)

/-- A fetch stands once in the schedule, if its kind is polled and its tick is among the first. -/
theorem filter_schedule (gap start n : ℕ) (fetch : Fetch) :
    (schedule gap start n).filter (·.value = fetch) =
      if fetch.kind ∈ kinds ∧ fetch.number < n then [⟨start + fetch.number * gap, fetch⟩]
      else [] := by
  obtain ⟨kind, k⟩ := fetch
  induction n with
  | zero => simp [schedule]
  | succ n ih =>
    rw [schedule_succ, List.filter_append, ih]
    rcases Nat.lt_trichotomy k n with hlt | rfl | hgt
    · have hne : n ≠ k := by omega
      simp [hlt, hne, Nat.lt_succ_of_lt hlt]
    · rcases kind with _ | _ | _ <;> simp [kinds]
    · have hne : n ≠ k := by omega
      have hnot : ¬ k < n + 1 := by omega
      simp [hne, hnot, Nat.not_lt_of_lt hgt]

/-- What a fetch brings up to a time: its snapshot, if it is polled, succeeds and is answered by
then, at the time of the answer. Other fetches do not matter. -/
def broughtBy (gap start limit : ℕ) (replies : Fetch → Reply) (fetch : Fetch) :
    List (Timed (Fetch × Snapshot)) :=
  let time := start + fetch.number * gap + (replies fetch).latency
  if fetch.kind ∈ kinds ∧ time ≤ limit then
    (replies fetch).result.toList.map fun snapshot => ⟨time, fetch, snapshot⟩
  else []

/-! ### The invariant -/

/-- What holds in every state of a scheduler that was started at a time. -/
structure IsOnSchedule (interval start : ℕ) (replies : Fetch → Reply) (s : State) : Prop where
  started : start ≤ s.now
  /-- The ticker is not late. -/
  now_le : s.now ≤ s.due
  due_le : s.due ≤ s.now + period interval
  issued : ∃ n, s.due = start + n * period interval ∧ s.issued = schedule (period interval) start n
  /-- A fetch that was issued runs or was answered, and its times depend on it alone. -/
  answers : (s.issued.map (answerOf replies)).Perm (s.answered ++ s.running)
  running : ∀ fetch ∈ s.running, s.now ≤ fetch.time
  answered : ∀ fetch ∈ s.answered, fetch.time ≤ s.now
  sent : s.sent = s.answered.filterMap (sending? replies)

theorem isOnSchedule_initial (interval start : ℕ) (replies : Fetch → Reply) :
    IsOnSchedule interval start replies (.initial start) where
  started := Nat.le_refl _
  now_le := Nat.le_refl _
  due_le := Nat.le_add_right _ _
  issued := ⟨0, by simp [State.initial], rfl⟩
  answers := .nil
  running _ h := by cases h
  answered _ h := by cases h
  sent := rfl

/-- A tick that comes after `n` others issues the fetches that the schedule has next. -/
theorem State.tick_eq (hissued : s.issued = schedule (period interval) start n)
    (hnow : s.now = start + n * period interval) :
    s.tick interval replies =
      { s with
        due := s.now + period interval
        issued := schedule (period interval) start (n + 1)
        running := s.running ++ [answerOf replies ⟨s.now, .portfolio, n⟩,
          answerOf replies ⟨s.now, .risk, n⟩] } := by
  have hportfolio := countP_schedule (period interval) start n
    (by decide : Kind.portfolio ∈ kinds)
  have hrisk := countP_schedule (period interval) start n (by decide : Kind.risk ∈ kinds)
  simp only [State.tick, kinds, List.foldl, State.issue, hissued, List.countP_append, hportfolio,
    hrisk, List.countP_cons, List.countP_nil, schedule_succ, ← hnow, List.append_assoc,
    List.cons_append, List.nil_append]
  rfl

/-- The ticker is not late, so it fires when it is due. -/
theorem IsOnSchedule.tick (h : IsOnSchedule interval start replies s) (hlate : s.due ≤ s.now) :
    IsOnSchedule interval start replies (s.tick interval replies) := by
  obtain ⟨n, hdue, hissued⟩ := h.issued
  have hnow : s.now = start + n * period interval := by
    rw [← hdue]
    exact Nat.le_antisymm h.now_le hlate
  rw [State.tick_eq hissued hnow]
  exact {
    started := h.started
    now_le := Nat.le_add_right _ _
    due_le := Nat.le_refl _
    issued := ⟨n + 1, by rw [hnow, Nat.add_mul, Nat.one_mul, Nat.add_assoc], rfl⟩
    answers := by
      have hanswers := h.answers
      rw [hissued] at hanswers
      rw [schedule_succ, List.map_append, ← hnow, ← List.append_assoc]
      exact hanswers.append_right _
    running := by
      intro fetch hfetch
      rcases List.mem_append.mp hfetch with hold | hnew
      · exact h.running fetch hold
      · obtain rfl | rfl := by simpa using hnew
        · exact Nat.le_add_right _ _
        · exact Nat.le_add_right _ _
    answered := h.answered
    sent := h.sent }

/-- A fetch is answered when its time has come, neither before nor after. -/
theorem IsOnSchedule.answer (h : IsOnSchedule interval start replies s)
    {before after : List (Timed Fetch)} {fetch : Timed Fetch}
    (hrunning : s.running = before ++ fetch :: after) (hlate : fetch.time ≤ s.now) :
    IsOnSchedule interval start replies (s.answer replies (before ++ after) fetch.value) := by
  have hfetch : (⟨s.now, fetch.value⟩ : Timed Fetch) = fetch := by
    have hmem : fetch ∈ s.running := hrunning ▸ List.mem_append_cons_self
    rw [Nat.le_antisymm (h.running fetch hmem) hlate]
  rw [State.answer, hfetch]
  exact {
    started := h.started
    now_le := h.now_le
    due_le := h.due_le
    issued := h.issued
    answers := by
      refine h.answers.trans ?_
      rw [hrunning, List.append_assoc]
      exact List.perm_middle.append_left _
    running := by
      intro other hother
      refine h.running other ?_
      rw [hrunning]
      exact ((List.sublist_cons_self fetch after).append_left before).mem hother
    answered := by
      intro other hother
      rcases List.mem_append.mp hother with hold | hnew
      · exact h.answered other hold
      · obtain rfl := List.mem_singleton.mp hnew
        exact hlate
    sent := by
      rw [h.sent, List.filterMap_append]
      cases hsending : sending? replies fetch <;> simp [hsending] }

/-- Time passes only as long as nothing is due, so nothing comes to be late. -/
theorem IsOnSchedule.wait (h : IsOnSchedule interval start replies s) (hs : s.IsSettled) :
    IsOnSchedule interval start replies { s with now := s.now + 1 } where
  started := Nat.le_succ_of_le h.started
  now_le := hs.ticker
  due_le := Nat.le_trans h.due_le (Nat.add_le_add_right (Nat.le_succ _) _)
  issued := h.issued
  answers := h.answers
  running := hs.fetches
  answered fetch hfetch := Nat.le_succ_of_le (h.answered fetch hfetch)
  sent := h.sent

/-- What one step keeps. -/
theorem IsOnSchedule.step (h : IsOnSchedule interval start replies s)
    (hstep : Step interval replies s t) : IsOnSchedule interval start replies t := by
  obtain hlate | ⟨before, after, fetch, hrunning, hlate⟩ | hsettled := hstep
  · exact h.tick hlate
  · exact h.answer hrunning hlate
  · exact h.wait hsettled

/-- What a whole run keeps. -/
theorem IsOnSchedule.run (h : IsOnSchedule interval start replies s)
    (hrun : Run interval replies s t) : IsOnSchedule interval start replies t := by
  induction hrun with
  | refl => exact h
  | tail _ hstep ih => exact ih.step hstep

/-! ### What is issued -/

/-- The number of ticks at the start and after it up to a time. -/
def ticksBy (gap start time : ℕ) : ℕ := (time - start) / gap + 1

/-- Nothing is issued but what is scheduled by now, in its order. Of that a tick that is due now may
still be missing. -/
theorem IsOnSchedule.issued_prefix (h : IsOnSchedule interval start replies s) :
    s.issued <+: schedule (period interval) start (ticksBy (period interval) start s.now) := by
  obtain ⟨n, hdue, hissued⟩ := h.issued
  rw [hissued]
  refine schedule_prefix _ _ ?_
  have hstarted := h.started
  have hdue_le := h.due_le
  have hpos := period_pos interval
  rcases n with _ | n
  · exact Nat.zero_le _
  · refine Nat.succ_le_succ ((Nat.le_div_iff_mul_le hpos).mpr ?_)
    rw [Nat.succ_mul] at hdue
    omega

/-- In a settled state nothing is missing. -/
theorem IsOnSchedule.issued_eq (h : IsOnSchedule interval start replies s) (hs : s.IsSettled) :
    s.issued = schedule (period interval) start (ticksBy (period interval) start s.now) := by
  obtain ⟨n, hdue, hissued⟩ := h.issued
  have hstarted := h.started
  have hdue_le := h.due_le
  have hticker := hs.ticker
  rcases n with _ | n
  · rw [Nat.zero_mul] at hdue
    omega
  · -- the clock is between the last tick and the next
    have hticks : ticksBy (period interval) start s.now = n + 1 := by
      rw [Nat.succ_mul] at hdue
      refine congrArg Nat.succ (Nat.div_eq_of_lt_le ?_ ?_)
      · omega
      · rw [Nat.succ_mul]
        omega
    rw [hticks, hissued]

/-! ### What is sent -/

/-- A fetch and its answer, if it is polled and answered by a time. -/
def answeredBy (gap start limit : ℕ) (replies : Fetch → Reply) (fetch : Fetch) :
    List (Timed Fetch) :=
  let time := start + fetch.number * gap + (replies fetch).latency
  if fetch.kind ∈ kinds ∧ time ≤ limit then [⟨time, fetch⟩] else []

theorem filterMap_answeredBy (gap start limit : ℕ) (replies : Fetch → Reply) (fetch : Fetch) :
    (answeredBy gap start limit replies fetch).filterMap (sending? replies) =
      broughtBy gap start limit replies fetch := by
  rw [answeredBy, broughtBy]
  split_ifs
  · cases hresult : (replies fetch).result <;> simp [sending?, hresult]
  · rfl

/-- What is sent for one fetch is what is sent for its answers. -/
theorem filter_filterMap_sending? (replies : Fetch → Reply) (fetch : Fetch)
    (answers : List (Timed Fetch)) :
    (answers.filterMap (sending? replies)).filter (·.value.1 = fetch) =
      (answers.filter (·.value = fetch)).filterMap (sending? replies) := by
  induction answers with
  | nil => rfl
  | cons answer rest ih =>
    cases hresult : (replies answer.value).result with
    | none =>
      have hsending : sending? replies answer = none := by simp [sending?, hresult]
      by_cases hvalue : answer.value = fetch <;> simp [hsending, hvalue, ih]
    | some snapshot =>
      have hsending : sending? replies answer = some ⟨answer.time, answer.value, snapshot⟩ := by
        simp [sending?, hresult]
      by_cases hvalue : answer.value = fetch <;> simp [hsending, hvalue, ih]

/-- Of a fetch that was issued there is one account: it runs or it was answered. -/
theorem IsOnSchedule.filter_accounts (h : IsOnSchedule interval start replies s)
    (hissued : s.issued = schedule (period interval) start n) (fetch : Fetch) :
    s.answered.filter (·.value = fetch) ++ s.running.filter (·.value = fetch) =
      if fetch.kind ∈ kinds ∧ fetch.number < n then
        [⟨start + fetch.number * period interval + (replies fetch).latency, fetch⟩]
      else [] := by
  have haccounts := h.answers.filter (·.value = fetch)
  have hscheduled : (s.issued.map (answerOf replies)).filter (·.value = fetch) =
      ((schedule (period interval) start n).filter (·.value = fetch)).map (answerOf replies) := by
    rw [hissued, List.filter_map]
    rfl
  rw [hscheduled, filter_schedule, List.filter_append] at haccounts
  split_ifs at haccounts ⊢ with hfetch
  · exact List.perm_singleton.mp haccounts.symm
  · exact List.perm_nil.mp haccounts.symm

/-- A fetch is answered once, when its own latency is over. -/
theorem IsOnSchedule.filter_answered (h : IsOnSchedule interval start replies s) (fetch : Fetch) :
    s.answered.filter (·.value = fetch) <+:
        answeredBy (period interval) start s.now replies fetch ∧
      (s.IsSettled → s.answered.filter (·.value = fetch) =
        answeredBy (period interval) start s.now replies fetch) := by
  obtain ⟨n, hdue, hissued⟩ := h.issued
  have haccounts := h.filter_accounts hissued fetch
  rw [answeredBy]
  generalize htime : start + fetch.number * period interval + (replies fetch).latency = time
    at haccounts ⊢
  split_ifs at haccounts with hfetch
  · rcases List.append_eq_singleton_iff.mp haccounts with ⟨hanswered, hrunning⟩ | ⟨hanswered, -⟩
    · -- it still runs, so its time has not come
      rw [hanswered]
      refine ⟨List.nil_prefix, fun hs => (if_neg fun hbrought => ?_).symm⟩
      have hmem : (⟨time, fetch⟩ : Timed Fetch) ∈ s.running :=
        List.mem_of_mem_filter (hrunning ▸ List.mem_singleton_self _)
      exact absurd hbrought.2 (Nat.not_le_of_lt (hs.fetches _ hmem))
    · have hmem : (⟨time, fetch⟩ : Timed Fetch) ∈ s.answered :=
        List.mem_of_mem_filter (hanswered ▸ List.mem_singleton_self _)
      rw [hanswered, if_pos ⟨hfetch.1, h.answered _ hmem⟩]
      exact ⟨List.prefix_rfl, fun _ => rfl⟩
  · rw [(List.append_eq_nil_iff.mp haccounts).1]
    refine ⟨List.nil_prefix, fun hs => (if_neg fun hbrought => hfetch ⟨hbrought.1, ?_⟩).symm⟩
    -- the ticker is not due, so the tick of a fetch that is answered by now was among the first
    refine Nat.lt_of_mul_lt_mul_right (a := period interval) ?_
    have hticker := hs.ticker
    omega

/-- What is sent for a fetch is its snapshot, once, when it is answered. -/
theorem IsOnSchedule.sentFor (h : IsOnSchedule interval start replies s) (fetch : Fetch) :
    s.sentFor fetch <+: broughtBy (period interval) start s.now replies fetch ∧
      (s.IsSettled →
        s.sentFor fetch = broughtBy (period interval) start s.now replies fetch) := by
  obtain ⟨hinit, hsettled⟩ := h.filter_answered fetch
  rw [State.sentFor, h.sent, filter_filterMap_sending?, ← filterMap_answeredBy]
  exact ⟨hinit.filterMap _, fun hs => congrArg _ (hsettled hs)⟩

/-! ### Whole timelines -/

theorem schedule_later (gap start n : ℕ) :
    schedule gap start n = (schedule gap 0 n).map (Timed.later start) := by
  simp [schedule, List.map_flatMap, Timed.later]

/-- The calls of a timeline are the fetches that are issued. -/
theorem map_kind_schedule (interval start limit : ℕ) :
    (schedule (period interval) start (limit / period interval + 1)).map (Timed.map Fetch.kind) =
      (calls interval limit).map (Timed.later start) := by
  simp [schedule, calls, ticks, kinds, List.map_flatMap, List.flatMap_map, Timed.map, Timed.later]

/-- What a fetch that is issued brings at some time. -/
def bringing (replies : Fetch → Reply) (fetch : Timed Fetch) : List (Timed Snapshot) :=
  ((sending? replies (answerOf replies fetch)).map (Timed.map (·.2))).toList

theorem bringing_eq (replies : Fetch → Reply) (fetch : Timed Fetch) : bringing replies fetch =
    (replies fetch.value).result.toList.map
      fun snapshot => ⟨fetch.time + (replies fetch.value).latency, snapshot⟩ := by
  rw [bringing, sending?, answerOf]
  cases (replies fetch.value).result <;> rfl

theorem flatMap_bringing_later (replies : Fetch → Reply) (start : ℕ)
    (fetches : List (Timed Fetch)) : (fetches.map (Timed.later start)).flatMap (bringing replies) =
      (fetches.flatMap (bringing replies)).map (Timed.later start) := by
  rw [List.flatMap_map, List.map_flatMap]
  refine congrArg (List.flatMap · fetches) (funext fun fetch => ?_)
  rw [bringing_eq, bringing_eq, List.map_map]
  simp [Timed.later, Nat.add_assoc]

/-- A source delivers of one kind what the fetches of the kind bring. -/
theorem deliveries_ticks (source : Source) (kind : Kind) (interval limit : ℕ) :
    source.deliveries kind (ticks interval limit) =
      (List.range (limit / period interval + 1)).flatMap fun k =>
        bringing (Fetch.replyOf source) ⟨k * period interval, kind, k⟩ := by
  have hnumbered : (ticks interval limit).zipIdx =
      (List.range (limit / period interval + 1)).map fun k => (k * period interval, k) := by
    refine List.ext_getElem (by simp [ticks]) fun k _ _ => ?_
    simp [ticks]
  rw [Source.deliveries, hnumbered, List.map_map, ← List.flatMap_def]
  simp [bringing_eq, Fetch.replyOf, Function.comp_def]

/-- Up to order, a timeline delivers what the scheduled fetches bring. -/
theorem deliveries_perm (source : Source) (interval limit : ℕ) :
    (deliveries source interval limit).Perm (Timed.upTo limit
      ((schedule (period interval) 0 (limit / period interval + 1)).flatMap
        (bringing (Fetch.replyOf source)))) := by
  refine (Timed.sort_perm _).trans (Timed.upTo_perm limit ?_)
  simp only [kinds, List.flatMap_cons, List.flatMap_nil, List.append_nil, deliveries_ticks]
  refine (List.flatMap_append_perm _ _ _).trans (.of_eq ?_)
  simp [schedule, List.flatMap_assoc]

/-- What fetches bring by a time is what is sent for those that are answered by then. -/
theorem upTo_flatMap_bringing (replies : Fetch → Reply) (limit : ℕ)
    (fetches : List (Timed Fetch)) : Timed.upTo limit (fetches.flatMap (bringing replies)) =
      (((fetches.map (answerOf replies)).filter (·.time ≤ limit)).filterMap
        (sending? replies)).map (Timed.map (·.2)) := by
  induction fetches with
  | nil => rfl
  | cons fetch rest ih =>
    rw [List.flatMap_cons, Timed.upTo_append, ih, List.map_cons, List.filter_cons, bringing_eq,
      answerOf]
    cases hresult : (replies fetch.value).result with
    | none => split_ifs <;> simp [Timed.upTo, sending?, hresult]
    | some snapshot => split_ifs with hle <;> simp_all [Timed.upTo, sending?, Timed.map]

/-- What was sent in a settled state is what the fetches that were issued bring by then. -/
theorem IsOnSchedule.sent_perm (h : IsOnSchedule interval start replies s) (hs : s.IsSettled) :
    (s.sent.map (Timed.map (·.2))).Perm
      (Timed.upTo s.now (s.issued.flatMap (bringing replies))) := by
  have haccounts := h.answers.filter (·.time ≤ s.now)
  have hanswered : s.answered.filter (·.time ≤ s.now) = s.answered :=
    List.filter_eq_self.mpr fun fetch hmem => decide_eq_true (h.answered fetch hmem)
  have hrunning : s.running.filter (·.time ≤ s.now) = [] :=
    List.filter_eq_nil_iff.mpr fun fetch hmem hle =>
      Nat.not_le_of_lt (hs.fetches fetch hmem) (of_decide_eq_true hle)
  rw [List.filter_append, hanswered, hrunning, List.append_nil] at haccounts
  rw [h.sent, upTo_flatMap_bringing]
  exact (haccounts.symm.filterMap _).map _

/-- **Polling keeps its schedule, whatever becomes of the fetches.** A scheduler that is started at
any time issues one fetch of the portfolio and then one of risk at once and after each interval, of
which zero counts as one millisecond, and it issues no others. For each fetch that succeeds the
snapshot is sent once, when the latency of that fetch is over; whether and when does not depend on
the other fetches. All this holds up to the present millisecond, in which some of what is due may
still be to come, and no unending run stays at one time. In the settled states, where nothing is
due, the timelines of calls and deliveries say what has happened. -/
theorem polling_on_schedule (interval start : ℕ) (replies : Fetch → Reply) (s : State)
    (h : Run interval replies (.initial start) s) :
    let gap := max interval 1
    let scheduled := schedule gap start (ticksBy gap start s.now)
    (s.issued <+: scheduled ∧
      ∀ fetch, s.sentFor fetch <+: broughtBy gap start s.now replies fetch) ∧
    (s.IsSettled → s.issued = scheduled ∧
      ∀ fetch, s.sentFor fetch = broughtBy gap start s.now replies fetch) ∧
    (∀ time ≥ s.now, ∃ t, Run interval replies s t ∧ t.IsSettled ∧ t.now = time) ∧
    (∀ states : ℕ → State, states 0 = s →
      (∀ k, Step interval replies (states k) (states (k + 1))) →
      ∀ time ≥ s.now, ∃ k, (states k).IsSettled ∧ (states k).now = time) ∧
    (∀ others t, Run interval others (.initial start) t → s.IsSettled → t.IsSettled →
      t.now = s.now → t.issued = s.issued ∧
        ∀ fetch, others fetch = replies fetch → t.sentFor fetch = s.sentFor fetch) ∧
    ∀ source limit, replies = Fetch.replyOf source → s.IsSettled → s.now = start + limit →
      s.issued.map (Timed.map Fetch.kind) = (calls interval limit).map (Timed.later start) ∧
      (s.sent.map (Timed.map (·.2))).Perm
        ((deliveries source interval limit).map (Timed.later start)) := by
  have hs := (isOnSchedule_initial interval start replies).run h
  refine ⟨⟨hs.issued_prefix, fun fetch => (hs.sentFor fetch).1⟩,
    fun hsettled => ⟨hs.issued_eq hsettled, fun fetch => (hs.sentFor fetch).2 hsettled⟩,
    fun time htime => exists_run_settled interval replies s htime, ?_, ?_, ?_⟩
  · rintro states rfl hstates time htime
    exact exists_settled hstates htime
  · intro others t hrun hsettled ht hnow
    have hother := (isOnSchedule_initial interval start others).run hrun
    refine ⟨?_, fun fetch hreply => ?_⟩
    · rw [hother.issued_eq ht, hs.issued_eq hsettled, hnow]
    · rw [(hother.sentFor fetch).2 ht, (hs.sentFor fetch).2 hsettled, hnow, broughtBy, broughtBy,
        hreply]
  · rintro source limit rfl hsettled hnow
    have hissued : s.issued = schedule (period interval) start (limit / period interval + 1) := by
      rw [hs.issued_eq hsettled, hnow, ticksBy, Nat.add_sub_cancel_left]
    refine ⟨hissued ▸ map_kind_schedule interval start limit, ?_⟩
    refine (hs.sent_perm hsettled).trans ?_
    rw [hissued, schedule_later, flatMap_bringing_later, hnow, Timed.upTo_later]
    exact ((deliveries_perm source interval limit).map _).symm

/-- The portfolio takes two milliseconds, and all fetches of risk but the first fail. -/
def slowPortfolio : Source :=
  ⟨List.replicate 3 ⟨2, some (.portfolio ⟨.zero, 0, []⟩)⟩, [⟨0, some (.risk .zero)⟩], []⟩

/-- Without an interval both kinds are fetched in each millisecond, although the first portfolio
comes only in the third and risk does not come again. -/
theorem polling_on_schedule_slowPortfolio : ∃ s,
    Run 0 (Fetch.replyOf slowPortfolio) (.initial 5) s ∧ s.now = 7 ∧
    s.issued = [⟨5, .portfolio, 0⟩, ⟨5, .risk, 0⟩, ⟨6, .portfolio, 1⟩, ⟨6, .risk, 1⟩,
      ⟨7, .portfolio, 2⟩, ⟨7, .risk, 2⟩] ∧
    s.sentFor ⟨.portfolio, 0⟩ = [⟨7, ⟨.portfolio, 0⟩, .portfolio ⟨.zero, 0, []⟩⟩] ∧
    s.sentFor ⟨.portfolio, 1⟩ = [] ∧
    s.sentFor ⟨.risk, 0⟩ = [⟨5, ⟨.risk, 0⟩, .risk .zero⟩] ∧
    s.sentFor ⟨.risk, 1⟩ = [] := by
  have hstart : Run 0 (Fetch.replyOf slowPortfolio) (.initial 5) (.initial 5) := .refl
  obtain ⟨-, -, hreach, -⟩ := polling_on_schedule 0 5 _ _ hstart
  obtain ⟨s, hrun, hsettled, hnow⟩ := hreach 7 (by decide)
  obtain ⟨-, hpresent, -⟩ := polling_on_schedule 0 5 _ s hrun
  obtain ⟨hissued, hsent⟩ := hpresent hsettled
  refine ⟨s, hrun, hnow, ?_, ?_, ?_, ?_, ?_⟩
  · rw [hissued, hnow]
    decide
  all_goals
    rw [hsent, hnow]
    decide

end RiskBoard.Poll
