import RiskBoard.Proofs.App.Interleaving
import RiskBoard.Proofs.Push.LifeCycle
import RiskBoard.Proofs.Timeline

/-!
# The timeline is an interleaving

`App.run?` knows no queue and no pending fetches: it merges the timelines of the producers and
applies what reaches the session. What it tells is what one of the runs of `App.Step` tells
(`App.exists_run_of_run?`), so what holds of all interleavings holds of the timeline.

Each message of the timeline is traced to the fetch that brings it (`App.Delivery`). A run can
follow deliveries one by one, each of them completed or sent and then taken at once, if they are
`App.Supplied`: a fetch that brings a message has been started before. The fetches of the poll are
started ahead of all messages. A fetch of forward exposure is asked for by a visit that is not later
than its snapshot, and at one time visits come first.
-/

namespace RiskBoard

namespace PushChannel

/-- A message of the kinds that the push channel sends. -/
inductive IsOfChannel : Inbound → Prop
  | channel (state : ChannelState) : IsOfChannel (.channel state)
  | pushed (push : PushMessage) : IsOfChannel (.pushed push)

/-- Whatever is met on a walk of the channel comes from the channel. -/
theorem Walk.isOfChannel {reconnectOnError : Bool} {x z m : Timed Inbound}
    {path : List (Timed Inbound)}
    (h : Walk reconnectOnError x path z) (hm : m ∈ path) : IsOfChannel m.value := by
  induction h with
  | nil => cases hm
  | cons hxy _ ih =>
    rcases List.mem_cons.mp hm with rfl | hm
    · cases hxy with
      | pushed _ _ _ push => exact .pushed push
      | _ => exact .channel _
    · exact ih hm

theorem isOfChannel_of_mem_run {strategy : ReconnectStrategy} {reconnectOnError : Bool}
    {attempts : List Attempt} {m : Timed Inbound}
    (hm : m ∈ inbound (run strategy reconnectOnError attempts)) : IsOfChannel m.value := by
  obtain ⟨_, hwalk, -⟩ := walk_acts strategy reconnectOnError 0 0 (attempts ++ [.quiet]) 0
  exact hwalk.isOfChannel hm

end PushChannel

namespace App

/-- Something that reaches the session, by where it comes from. -/
inductive Delivery where
  /-- The snapshot that a fetch of a kind brings, whatever its own kind is. -/
  | fetched (kind : Kind) (snapshot : Snapshot)
  /-- What the user or the push channel sends. -/
  | sent (message : Inbound)
deriving DecidableEq

namespace Delivery

def message : Delivery → Inbound
  | fetched _ snapshot => .pulled snapshot
  | sent message => message

/-- Whether a fetch of a kind brings it. -/
def completes (kind : Kind) : Delivery → Bool
  | fetched fetchedKind _ => fetchedKind = kind
  | sent _ => false

/-- Whether the session asks for a fetch of a kind when it takes it. -/
def asks (kind : Kind) (delivery : Delivery) : Bool :=
  kind = .exposure && delivery.message = .navigate .exposure

/-- A delivery that is a visit to a view. -/
def IsVisit (delivery : Delivery) : Prop := ∃ view, delivery = .sent (.navigate view)

/-- Only visits ask for fetches. -/
theorem isVisit_of_asks {kind : Kind} {delivery : Delivery} (h : delivery.asks kind = true) :
    delivery.IsVisit := by
  have hvisit := of_decide_eq_true (Bool.and_eq_true_iff.mp h).2
  cases delivery with
  | fetched => cases hvisit
  | sent message => exact ⟨.exposure, congrArg sent hvisit⟩

/-- Visits of the exposure view are what asks for it. -/
theorem count_navigate (deliveries : List Delivery) :
    (deliveries.map message).count (.navigate .exposure) =
      deliveries.countP (·.asks .exposure) := by
  rw [List.count, List.countP_map]
  exact List.countP_congr fun delivery _ => by simp [asks]

end Delivery

/-- Deliveries that can follow each other from a state with some pending fetches on: no fetch brings
a snapshot before it is started. -/
structure Supplied (pending : List Kind) (deliveries : List Delivery) : Prop where
  sent : ∀ message, .sent message ∈ deliveries → message.snapshot? = none
  fetched : ∀ kind first, first <+: deliveries →
    first.countP (·.completes kind) ≤ pending.count kind + first.countP (·.asks kind)

variable {actions : List Action} {s : State} {pending rest : List Kind} {delivery : Delivery}
  {deliveries : List Delivery} {r : Reaction}

/-! ### Following deliveries -/

/-- What is supplied stays so after the first delivery, if its fetch is taken off. -/
theorem Supplied.tail (h : Supplied pending (delivery :: deliveries))
    (hrest : ∀ kind, rest.count kind + (delivery.completes kind).toNat =
      pending.count kind + (delivery.asks kind).toNat) : Supplied rest deliveries where
  sent message hmem := h.sent message (List.mem_cons_of_mem _ hmem)
  fetched kind first hfirst := by
    -- the delivery itself counts on both sides, once at most
    have hcons := h.fetched kind (delivery :: first) (List.cons_prefix_cons.mpr ⟨rfl, hfirst⟩)
    have hkind := hrest kind
    rw [List.countP_cons, List.countP_cons] at hcons
    cases hc : delivery.completes kind <;> cases ha : delivery.asks kind <;>
      simp [hc, ha] at hcons hkind <;> omega

/-- A fetch that brings the first delivery is pending. -/
theorem Supplied.mem {kind : Kind} {snapshot : Snapshot}
    (h : Supplied pending (.fetched kind snapshot :: deliveries)) : kind ∈ pending := by
  have hone := h.fetched kind [.fetched kind snapshot]
    (List.cons_prefix_cons.mpr ⟨rfl, List.nil_prefix⟩)
  refine List.count_pos_iff.mp ?_
  simpa [Delivery.completes, Delivery.asks, Delivery.message] using hone

/-- A session starts the fetches that a delivery asks for. -/
theorem count_fetches_of_step? {session : Session} (h : session.step? delivery.message = some r)
    (kind : Kind) : r.fetches.count kind = (delivery.asks kind).toNat := by
  rw [Session.fetches_of_step? h, Delivery.asks]
  by_cases hvisit : delivery.message = .navigate .exposure
  · cases kind <;> simp [hvisit]
  · simp [hvisit]

/-- A supplied delivery can be sent. -/
theorem Supplied.exists_step (h : Supplied s.pending (delivery :: deliveries))
    (hqueue : s.queue = []) :
    ∃ action rest, Step s action { s with pending := rest, queue := [delivery.message] } ∧
      action.taken = [] ∧ action ≠ .tick ∧
      ∀ kind, rest.count kind + (delivery.completes kind).toNat = s.pending.count kind := by
  rcases delivery with ⟨kind, snapshot⟩ | message
  · obtain ⟨before, after, hpending⟩ := List.append_of_mem h.mem
    have hstep := Step.complete before after kind (some snapshot) hpending
    rw [hqueue] at hstep
    refine ⟨_, _, hstep, rfl, nofun, fun k => ?_⟩
    rw [hpending, List.count_append, List.count_append, List.count_cons, Delivery.completes]
    by_cases hk : kind = k
    · simp [hk, Nat.add_assoc]
    · simp [hk]
  · have hstep := Step.send (s := s) message (h.sent message List.mem_cons_self)
    rw [hqueue] at hstep
    exact ⟨_, _, hstep, rfl, nofun, fun _ => rfl⟩

/-- A run can go on with a supplied delivery, which is taken at once. -/
theorem Run.deliver (h : Run actions s) (hrunning : s.running = true) (hqueue : s.queue = [])
    (hsupplied : Supplied s.pending (delivery :: deliveries))
    (hstep : s.session.step? delivery.message = some r) :
    ∃ more rest, Run (actions ++ more) ⟨true, r.session, [], rest, s.told ++ r.events⟩ ∧
      more.flatMap Action.taken = [delivery.message] ∧ more.count .tick = 0 ∧
      Supplied rest deliveries := by
  obtain ⟨action, rest, hsend, htaken, htick, hrest⟩ := hsupplied.exists_step hqueue
  have hrun := (h.concat _ hsend).concat _ (.take delivery.message [] r hrunning rfl hstep)
  rw [List.append_assoc] at hrun
  simp only [hrunning] at hrun
  refine ⟨_, _, hrun, ?_, ?_, hsupplied.tail fun kind => ?_⟩
  · rw [List.flatMap_append, List.flatMap_singleton, htaken]
    rfl
  · exact List.count_eq_zero.mpr (by simp [htick.symm])
  · rw [List.count_append, count_fetches_of_step? hstep, ← hrest kind]
    omega

/-- **A run follows deliveries** that are supplied, one after the other, and tells what the session
does. -/
theorem Run.follow (h : Run actions s) (hrunning : s.running = true) (hqueue : s.queue = [])
    (hsupplied : Supplied s.pending deliveries)
    (hrun : s.session.run? (deliveries.map (·.message)) = some r) :
    ∃ more t, Run (actions ++ more) t ∧ t.running = true ∧ t.told = s.told ++ r.events ∧
      more.flatMap Action.taken = deliveries.map (·.message) ∧ more.count .tick = 0 := by
  induction deliveries generalizing actions s r with
  | nil =>
    cases hrun
    refine ⟨[], s, ?_, hrunning, (List.append_nil _).symm, rfl, rfl⟩
    rwa [List.append_nil]
  | cons delivery deliveries ih =>
    rw [List.map_cons, Session.run?_cons] at hrun
    obtain ⟨first, hfirst, hrun⟩ := Option.bind_eq_some_iff.mp hrun
    obtain ⟨others, hothers, rfl⟩ := Option.map_eq_some_iff.mp hrun
    obtain ⟨one, rest, hone, htaken, htick, hrest⟩ := h.deliver hrunning hqueue hsupplied hfirst
    obtain ⟨more, t, hmore, hrunning', htold, htaken', htick'⟩ := ih hone rfl rfl hrest hothers
    refine ⟨one ++ more, t, ?_, hrunning', ?_, ?_, ?_⟩
    · rwa [← List.append_assoc]
    · rw [htold, List.append_assoc]
      rfl
    · rw [List.flatMap_append, htaken, htaken']
      rfl
    · rw [List.count_append, htick, htick']

/-- The poll may be ahead of everything else. -/
theorem run_ticks (n : ℕ) : ∃ pending,
    Run (.start :: List.replicate n .tick) ⟨true, .initial, [], pending, []⟩ ∧
      pending.count .exposure = 1 ∧ ∀ kind, kind ≠ .exposure → pending.count kind = n := by
  induction n with
  | zero =>
    refine ⟨[.exposure], Run.nil.concat _ (.start rfl), rfl, fun kind hkind => ?_⟩
    exact List.count_eq_zero.mpr (by simpa using hkind)
  | succ n ih =>
    obtain ⟨pending, hrun, hexposure, hpolled⟩ := ih
    refine ⟨pending ++ Poll.kinds, ?_, ?_, fun kind hkind => ?_⟩
    · rw [List.replicate_succ']
      exact hrun.concat _ (.tick rfl)
    · rw [List.count_append, hexposure]
      rfl
    · rw [List.count_append, hpolled kind hkind]
      cases kind <;> first | rfl | exact absurd rfl hkind

/-! ### The deliveries of the timeline -/

/-- What the fetches of a kind bring when they are started at given times. -/
def fetchedAt (source : Source) (kind : Kind) (times : List ℕ) : List (Timed Delivery) :=
  (source.deliveries kind times).map (Timed.map (Delivery.fetched kind))

/-- All that reaches the session but the visits. -/
def unvisited (settings : Settings) (source : Source) (attempts : List Attempt)
    (visits : List Visit) (limit : ℕ) : List (Timed Delivery) :=
  let polled := Poll.kinds.flatMap fun kind =>
    fetchedAt source kind (Poll.ticks settings.pollInterval limit)
  fetchedAt source .exposure (exposureTimes visits limit) ++
    (PushChannel.inbound (pushActs settings attempts)).map (Timed.map Delivery.sent) ++
    Timed.sort (Timed.upTo limit polled)

/-- What reaches the session up to a time, by where it comes from. -/
def traced (settings : Settings) (source : Source) (attempts : List Attempt)
    (visits : List Visit) (limit : ℕ) : List (Timed Delivery) :=
  Timed.sort <| Timed.upTo limit <|
    visits.map (Timed.map (Delivery.sent ∘ Inbound.navigate)) ++
      unvisited settings source attempts visits limit

section Timeline

variable (settings : Settings) (source : Source) (attempts : List Attempt) (visits : List Visit)
  (limit : ℕ)

/-- As messages, fetches bring what they bring on the timeline. -/
theorem map_fetchedAt (kind : Kind) (times : List ℕ) :
    (fetchedAt source kind times).map (Timed.map Delivery.message) =
      (source.deliveries kind times).map (Timed.map Inbound.pulled) := by
  rw [fetchedAt, List.map_map]
  rfl

/-- As messages, the deliveries are those of the timeline. -/
theorem map_traced : (traced settings source attempts visits limit).map
    (Timed.map Delivery.message) = inbound settings source attempts visits limit := by
  have hpolled : (Poll.kinds.flatMap fun kind =>
      fetchedAt source kind (Poll.ticks settings.pollInterval limit)).map
        (Timed.map Delivery.message) =
      (Poll.kinds.flatMap fun kind =>
        source.deliveries kind (Poll.ticks settings.pollInterval limit)).map
          (Timed.map Inbound.pulled) := by
    rw [List.map_flatMap, List.map_flatMap]
    simp only [map_fetchedAt]
  have hsent : (PushChannel.inbound (pushActs settings attempts)).map
      (Timed.map Delivery.message ∘ Timed.map Delivery.sent) =
      PushChannel.inbound (pushActs settings attempts) := List.map_id _
  simp only [traced, unvisited, inbound, Poll.deliveries, Timed.map_sort, Timed.map_upTo,
    List.map_append, map_fetchedAt, hpolled, List.map_map, hsent]
  rfl

theorem map_message_traced : ((traced settings source attempts visits limit).map (·.value)).map
    (·.message) = (inbound settings source attempts visits limit).map (·.value) := by
  rw [← map_traced, List.map_map, List.map_map]
  rfl

end Timeline

/-! ### Fetches are started before they bring anything -/

section Counts

variable (settings : Settings) (source : Source) (attempts : List Attempt) (visits : List Visit)
  (limit time : ℕ) (kind : Kind)

/-- A fetch brings at most one thing, and not before it was started. -/
private theorem countP_flatten_le (times : List ℕ) (n : ℕ) :
    ((times.zipIdx n).map fun (t, n) =>
        let reply := source.reply kind n
        reply.result.toList.map fun snapshot =>
          (⟨t + reply.latency, snapshot⟩ : Timed Snapshot)).flatten.countP (·.time ≤ time) ≤
      times.countP (· ≤ time) := by
  induction times generalizing n with
  | nil => exact le_rfl
  | cons t times ih =>
    have hrest := ih (n + 1)
    rw [List.zipIdx_cons, List.map_cons, List.flatten_cons, List.countP_append, List.countP_cons]
    cases hreply : (source.reply kind n).result with
    | none => simpa [hreply] using Nat.le_add_right_of_le hrest
    | some snapshot =>
      have hone : (if t + (source.reply kind n).latency ≤ time then 1 else 0) ≤
          if t ≤ time then 1 else 0 := by
        split_ifs <;> omega
      simp [hreply, List.countP_cons] at hrest hone ⊢
      omega

/-- A fetch brings at most one snapshot, and not before it is started. -/
theorem countP_deliveries_le (times : List ℕ) :
    (source.deliveries kind times).countP (·.time ≤ time) ≤ times.countP (· ≤ time) :=
  countP_flatten_le source time kind times 0

/-- No more fetches are complete by a time than were started by it. -/
theorem countP_fetchedAt_le (fetchedKind : Kind) (times : List ℕ) :
    (Timed.upTo time (fetchedAt source fetchedKind times)).countP (·.value.completes kind) ≤
      (Timed.upTo time (times.map (⟨·, fetchedKind⟩))).countP (·.value = kind) := by
  rw [Timed.countP_upTo, Timed.countP_upTo, fetchedAt, List.countP_map, List.countP_map]
  by_cases hkind : fetchedKind = kind
  · calc
      _ ≤ (source.deliveries fetchedKind times).countP (·.time ≤ time) :=
        List.countP_mono_left fun _ _ h => (Bool.and_eq_true_iff.mp h).2
      _ ≤ times.countP (· ≤ time) := countP_deliveries_le source time fetchedKind times
      _ ≤ _ := List.countP_mono_left fun _ _ h => by simpa [hkind] using h
  · simp [Function.comp_def, Timed.map, Delivery.completes, hkind]

/-- Fetches are started by visits and by ticks. -/
theorem calls_perm : (calls settings visits limit).Perm
    ((exposureTimes visits limit).map (⟨·, .exposure⟩) ++
      Poll.kinds.flatMap fun kind =>
        (Poll.ticks settings.pollInterval limit).map (⟨·, kind⟩)) := by
  refine (Timed.sort_perm _).trans (List.Perm.append_left _ ?_)
  have hticks := List.flatMap_append_perm (Poll.ticks settings.pollInterval limit)
    (fun t => [(⟨t, .portfolio⟩ : Timed Kind)]) (fun t => [⟨t, .risk⟩])
  simpa [Poll.calls, Poll.kinds, ← List.map_eq_flatMap] using hticks.symm

/-- Deliveries are visits, fetches of exposure, messages of the channel, and polled fetches. -/
theorem traced_perm : (traced settings source attempts visits limit).Perm
    (Timed.upTo limit
      (visits.map (Timed.map (Delivery.sent ∘ Inbound.navigate)) ++
        (fetchedAt source .exposure (exposureTimes visits limit) ++
          (PushChannel.inbound (pushActs settings attempts)).map (Timed.map Delivery.sent) ++
          Poll.kinds.flatMap fun kind =>
            fetchedAt source kind (Poll.ticks settings.pollInterval limit)))) := by
  refine (Timed.sort_perm _).trans ?_
  simp only [unvisited, Timed.upTo_append]
  refine List.Perm.append_left _ (List.Perm.append_left _ ?_)
  refine (Timed.upTo_perm limit (Timed.sort_perm _)).trans ?_
  rw [Timed.upTo_self]

theorem countP_sent {α : Type} (f : α → Inbound) (xs : List (Timed α)) :
    (Timed.upTo time (xs.map (Timed.map (Delivery.sent ∘ f)))).countP
      (·.value.completes kind) = 0 := by
  simp [Timed.countP_upTo, Timed.map, Delivery.completes]

/-- By any time, no more fetches of a kind have brought something than were started. -/
theorem countP_traced_le :
    (Timed.upTo time (traced settings source attempts visits limit)).countP
        (·.value.completes kind) ≤
      (Timed.upTo time (calls settings visits limit)).countP (·.value = kind) := by
  have hexposure := countP_fetchedAt_le source time kind .exposure (exposureTimes visits limit)
  have hportfolio := countP_fetchedAt_le source time kind .portfolio
    (Poll.ticks settings.pollInterval limit)
  have hrisk := countP_fetchedAt_le source time kind .risk
    (Poll.ticks settings.pollInterval limit)
  have hchannel := countP_sent time kind id (PushChannel.inbound (pushActs settings attempts))
  rw [(Timed.upTo_perm time (calls_perm settings visits limit)).countP_eq,
    (Timed.upTo_perm time (traced_perm settings source attempts visits limit)).countP_eq]
  -- the timeline leaves out what comes later than its limit, and the fetches need not
  refine (Timed.upTo_comm time limit _ ▸ (Timed.upTo_sublist limit _).countP_le).trans ?_
  simp only [Poll.kinds, List.flatMap_cons, List.flatMap_nil, List.append_nil, Timed.upTo_append,
    List.countP_append, countP_sent, Function.comp_id] at hchannel ⊢
  omega

/-- What is polled is fetched once per tick. -/
theorem countP_calls_polled (hkind : kind ≠ .exposure) :
    (calls settings visits limit).countP (·.value = kind) =
      (Poll.ticks settings.pollInterval limit).length := by
  rw [(calls_perm settings visits limit).countP_eq]
  cases kind with
  | exposure => exact absurd rfl hkind
  | portfolio | risk => simp [Poll.kinds, Function.comp_def]

end Counts

/-! ### The timeline is supplied -/

section Order

variable {settings : Settings} {source : Source} {attempts : List Attempt} {visits : List Visit}
  {limit time : ℕ} {d : Timed Delivery}

theorem value_of_mem_fetchedAt {kind : Kind} {times : List ℕ}
    (hd : d ∈ fetchedAt source kind times) : ∃ snapshot, d.value = .fetched kind snapshot := by
  obtain ⟨x, -, rfl⟩ := List.mem_map.mp hd
  exact ⟨x.value, rfl⟩

/-- All but the visits comes from the push channel or is fetched. -/
theorem value_of_mem_unvisited (hd : d ∈ unvisited settings source attempts visits limit) :
    (∃ message, PushChannel.IsOfChannel message ∧ d.value = .sent message) ∨
      ∃ kind snapshot, d.value = .fetched kind snapshot := by
  rcases List.mem_append.mp hd with hd | hpolled
  · rcases List.mem_append.mp hd with hexposure | hchannel
    · exact .inr ⟨_, value_of_mem_fetchedAt hexposure⟩
    · obtain ⟨m, hm, rfl⟩ := List.mem_map.mp hchannel
      exact .inl ⟨m.value, PushChannel.isOfChannel_of_mem_run hm, rfl⟩
  · have hmem := (Timed.upTo_sublist _ _).subset ((Timed.sort_perm _).mem_iff.mp hpolled)
    obtain ⟨kind, -, hfetched⟩ := List.mem_flatMap.mp hmem
    exact .inr ⟨kind, value_of_mem_fetchedAt hfetched⟩

/-- What is no visit on the timeline is delivered as none. -/
theorem not_isVisit_of_mem_unvisited (hd : d ∈ unvisited settings source attempts visits limit) :
    ¬ d.value.IsVisit := by
  rintro ⟨view, hview⟩
  rcases value_of_mem_unvisited hd with ⟨_, hsent, hmessage⟩ | ⟨_, _, hfetched⟩
  · cases hview.symm.trans hmessage
    cases hsent
  · cases hview.symm.trans hfetched

/-- What is sent, and not fetched, brings no snapshot. -/
theorem snapshot?_of_mem_traced {message : Inbound}
    (hd : d ∈ traced settings source attempts visits limit) (hvalue : d.value = .sent message) :
    message.snapshot? = none := by
  have hmem := (Timed.upTo_sublist _ _).subset ((Timed.sort_perm _).mem_iff.mp hd)
  rcases List.mem_append.mp hmem with hvisit | hrest
  · obtain ⟨visit, -, rfl⟩ := List.mem_map.mp hvisit
    cases hvalue
    rfl
  · rcases value_of_mem_unvisited hrest with ⟨_, hsent, hmessage⟩ | ⟨_, _, hfetched⟩
    · cases hvalue.symm.trans hmessage
      cases hsent <;> rfl
    · cases hvalue.symm.trans hfetched

/-- At one time visits come first. -/
theorem pairwise_traced : (traced settings source attempts visits limit).Pairwise fun x y =>
    ¬ x.value.IsVisit → y.value.IsVisit → x.time < y.time := by
  rw [traced, Timed.upTo_append]
  refine Timed.pairwise_sort_append (fun x hx => ?_) (fun y hy => ?_)
  · obtain ⟨visit, -, rfl⟩ := List.mem_map.mp ((Timed.upTo_sublist _ _).subset hx)
    exact ⟨visit.value, rfl⟩
  · exact not_isVisit_of_mem_unvisited ((Timed.upTo_sublist _ _).subset hy)

/-- Forward exposure is fetched at the start and whenever it is visited. -/
theorem exposure_times_perm (settings : Settings) (source : Source) (attempts : List Attempt)
    (visits : List Visit) (limit : ℕ) :
    (((calls settings visits limit).filter (·.value = .exposure)).map (·.time)).Perm
      (0 :: ((traced settings source attempts visits limit).filter
        (·.value.asks .exposure)).map (·.time)) := by
  have hcalls : (((calls settings visits limit).filter (·.value = .exposure)).map (·.time)).Perm
      (exposureTimes visits limit) := by
    refine (((calls_perm settings visits limit).filter _).map _).trans (.of_eq ?_)
    simp [Poll.kinds, List.filter_map, Function.comp_def]
  have hunvisited : (Timed.upTo limit (unvisited settings source attempts visits limit)).filter
      (·.value.asks .exposure) = [] := by
    refine List.filter_eq_nil_iff.mpr fun d hd hasks => ?_
    exact not_isVisit_of_mem_unvisited ((Timed.upTo_sublist _ _).subset hd)
      (Delivery.isVisit_of_asks hasks)
  have htraced : (((traced settings source attempts visits limit).filter
      (·.value.asks .exposure)).map (·.time)).Perm
        (((Timed.upTo limit visits).filter (·.value = .exposure)).map (·.time)) := by
    refine (((Timed.sort_perm _).filter _).map _).trans (.of_eq ?_)
    rw [Timed.upTo_append, List.filter_append, hunvisited, List.append_nil, ← Timed.map_upTo,
      List.filter_map, List.map_map]
    simp [Function.comp_def, Timed.map, Delivery.asks, Delivery.message]
  have hvisits : (exposureTimes visits limit).Perm
      (0 :: ((Timed.upTo limit visits).filter (·.value = .exposure)).map (·.time)) :=
    (((Timed.upTo_perm limit (Timed.sort_perm visits)).filter _).map _).cons 0
  exact hcalls.trans (hvisits.trans (htraced.symm.cons 0))

variable {kind : Kind} {first after : List (Timed Delivery)}

/-- What fetches of a kind have brought by the end of a part of the timeline was started by then. -/
theorem countP_completes_le
    (hsplit : traced settings source attempts visits limit = first ++ d :: after) :
    (first ++ [d]).countP (·.value.completes kind) ≤
      (Timed.upTo d.time (calls settings visits limit)).countP (·.value = kind) := by
  have hsorted : (first ++ d :: after).Pairwise fun x y => x.time ≤ y.time :=
    hsplit ▸ Timed.pairwise_sort _
  have hpart : (first ++ [d]).Sublist (traced settings source attempts visits limit) := by
    rw [hsplit]
    exact (List.singleton_sublist.mpr List.mem_cons_self).append_left first
  have hbefore : Timed.upTo d.time (first ++ [d]) = first ++ [d] := by
    refine List.filter_eq_self.mpr fun x hx => decide_eq_true ?_
    rcases List.mem_append.mp hx with hx | hx
    · exact (List.pairwise_append.mp hsorted).2.2 x hx d List.mem_cons_self
    · rw [List.mem_singleton.mp hx]
  rw [← hbefore]
  exact (hpart.filter _).countP_le.trans
    (countP_traced_le settings source attempts visits limit d.time kind)

/-- The visits by the time of something that is no visit come before it. -/
theorem countP_asks_le (hd : d.value.completes kind = true)
    (hsplit : traced settings source attempts visits limit = first ++ d :: after) :
    (Timed.upTo d.time (traced settings source attempts visits limit)).countP
        (·.value.asks .exposure) ≤ (first ++ [d]).countP (·.value.asks .exposure) := by
  have hnot : ¬ d.value.IsVisit := by
    rintro ⟨view, hview⟩
    rw [hview] at hd
    cases hd
  have hafter : (Timed.upTo d.time after).countP (·.value.asks .exposure) = 0 := by
    refine List.countP_eq_zero.mpr fun x hx hasks => ?_
    obtain ⟨hx, htime⟩ := List.mem_filter.mp hx
    have horder : (first ++ d :: after).Pairwise _ := hsplit ▸ pairwise_traced
    have hlater := List.rel_of_pairwise_cons (List.pairwise_append.mp horder).2.1 hx hnot
      (Delivery.isVisit_of_asks hasks)
    exact absurd (of_decide_eq_true htime) (Nat.not_le.mpr hlater)
  rw [hsplit, List.append_cons, Timed.upTo_append, List.countP_append, hafter, Nat.add_zero]
  exact (Timed.upTo_sublist _ _).countP_le

section Supplied

variable {pending : List Kind} (hexposure : pending.count .exposure = 1)
  (hpolled : ∀ kind, kind ≠ .exposure →
    pending.count kind = (Poll.ticks settings.pollInterval limit).length)

include hexposure hpolled

/-- By the time of something that is no visit, no more fetches were started than the ticks and the
visits before it account for. -/
theorem countP_calls_le (hd : d.value.completes kind = true)
    (hsplit : traced settings source attempts visits limit = first ++ d :: after) :
    (Timed.upTo d.time (calls settings visits limit)).countP (·.value = kind) ≤
      pending.count kind + (first ++ [d]).countP (·.value.asks kind) := by
  by_cases hkind : kind = .exposure
  · subst hkind
    have htimes := exposure_times_perm settings source attempts visits limit
    have hasks := countP_asks_le hd hsplit
    rw [Timed.countP_upTo_eq_times] at hasks ⊢
    rw [htimes.countP_eq, List.countP_cons, if_pos (by simp), hexposure]
    omega
  · rw [hpolled kind hkind, ← countP_calls_polled settings visits limit kind hkind]
    exact Nat.le_add_right_of_le (Timed.upTo_sublist _ _).countP_le

/-- In no first part of the timeline more is complete than was started. -/
theorem countP_part_le (hfirst : first <+: traced settings source attempts visits limit) :
    first.countP (·.value.completes kind) ≤
      pending.count kind + first.countP (·.value.asks kind) := by
  induction first using List.reverseRecOn with
  | nil => exact Nat.zero_le _
  | append_singleton first d ih =>
    obtain ⟨after, hsplit⟩ := hfirst
    rw [List.append_assoc] at hsplit
    -- only a delivery that completes a fetch of the kind needs an argument, and it is no visit
    by_cases hd : d.value.completes kind = true
    · exact (countP_completes_le hsplit.symm).trans
        (countP_calls_le hexposure hpolled hd hsplit.symm)
    · have hfirst := ih ⟨[d] ++ after, hsplit⟩
      rw [List.countP_append, List.countP_append, List.countP_singleton, if_neg hd]
      omega

/-- Once the ticks are started, the timeline is supplied. -/
theorem supplied_traced :
    Supplied pending ((traced settings source attempts visits limit).map (·.value)) where
  sent message hmem := by
    obtain ⟨d, hd, hvalue⟩ := List.mem_map.mp hmem
    exact snapshot?_of_mem_traced hd hvalue
  fetched kind first hfirst := by
    obtain ⟨part, hpart, rfl⟩ := List.prefix_map_iff.mp hfirst
    rw [List.countP_map, List.countP_map]
    exact countP_part_le hexposure hpolled hpart

end Supplied

end Order

/-! ### The run of a timeline -/

/-- What is told along a timeline is what a run of its messages tells. -/
theorem run?_of_events? {session : Session} {messages : List (Timed Inbound)}
    {told : List (Timed Event)} (h : events? session messages = some told) :
    ∃ r, session.run? (messages.map (·.value)) = some r ∧ r.events = told.map (·.value) := by
  induction messages generalizing session told with
  | nil =>
    cases h
    exact ⟨_, rfl, rfl⟩
  | cons message messages ih =>
    obtain ⟨first, hfirst, h⟩ := Option.bind_eq_some_iff.mp h
    obtain ⟨others, hothers, h⟩ := Option.bind_eq_some_iff.mp h
    cases h
    obtain ⟨rest, hrest, hevents⟩ := ih hothers
    refine ⟨first.andThen rest, ?_, ?_⟩
    · rw [List.map_cons, Session.run?_cons, hfirst, Option.bind_some, hrest]
      rfl
    · rw [Reaction.andThen, hevents, List.map_append, List.map_map]
      exact congrArg (· ++ _) (List.map_id _).symm

/-- A run that takes the messages of a timeline, and ticks as often, starts the same fetches. -/
theorem IsBalanced.started_perm {settings : Settings} {source : Source} {attempts : List Attempt}
    {visits : List Visit} {limit : ℕ} (h : IsBalanced actions s) (hrunning : s.running = true)
    (htaken : actions.flatMap Action.taken =
      (inbound settings source attempts visits limit).map (·.value))
    (htick : actions.count .tick = (Poll.ticks settings.pollInterval limit).length) :
    (actions.flatMap Action.started).Perm ((calls settings visits limit).map (·.value)) := by
  refine List.perm_iff_count.mpr fun kind => ?_
  have hcount : ((calls settings visits limit).map (·.value)).count kind =
      (calls settings visits limit).countP (·.value = kind) := List.countP_map
  by_cases hkind : kind = .exposure
  · subst hkind
    have htimes := exposure_times_perm settings source attempts visits limit
    rw [hcount, h.exposure, hrunning, htaken, ← map_message_traced, Delivery.count_navigate]
    simpa [List.countP_eq_length_filter, List.filter_map, Function.comp_def, Nat.add_comm] using
      htimes.length_eq.symm
  · rw [hcount, h.polled kind hkind, htick, countP_calls_polled settings visits limit kind hkind]

/-- **Timelines are interleavings.** What the timeline tells is what some run of the dashboard tells
that takes the same messages and starts the same fetches. -/
theorem exists_run_of_run? {settings : Settings} {source : Source} {attempts : List Attempt}
    {visits : List Visit} {limit : ℕ} {told : List (Timed Event)}
    (h : run? settings source attempts visits limit = some told) :
    ∃ actions s, Run actions s ∧ s.running = true ∧ s.told = told.map (·.value) ∧
      actions.flatMap Action.taken =
        (inbound settings source attempts visits limit).map (·.value) ∧
      (actions.flatMap Action.started).Perm ((calls settings visits limit).map (·.value)) := by
  obtain ⟨r, hrun, hevents⟩ := run?_of_events? h
  obtain ⟨pending, hticks, hexposure, hpolled⟩ :=
    run_ticks (Poll.ticks settings.pollInterval limit).length
  have hsupplied : Supplied pending
      ((traced settings source attempts visits limit).map (·.value)) :=
    supplied_traced hexposure hpolled
  rw [← map_message_traced] at hrun
  obtain ⟨more, t, hmore, hrunning, htold, htaken, htick⟩ :=
    hticks.follow rfl rfl hsupplied hrun
  have htaken' : ((.start :: List.replicate (Poll.ticks settings.pollInterval limit).length
      Action.tick) ++ more).flatMap Action.taken =
        (inbound settings source attempts visits limit).map (·.value) := by
    rw [List.flatMap_append, htaken, map_message_traced]
    simp [Action.taken]
  refine ⟨_, t, hmore, hrunning, ?_, htaken', ?_⟩
  · rw [htold, hevents]
    rfl
  · refine hmore.isBalanced.started_perm hrunning htaken' ?_
    rw [List.count_append, htick]
    simp

end App

end RiskBoard
