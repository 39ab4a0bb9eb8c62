import RiskBoard.Proofs.Push.LifeCycle

/-!
# What the push connection delivers

Read off the transport alone: a connection is heard up to its first close or failure
(`Attempt.heard`), of what is heard the valid frames are delivered, greetings left out
(`Attempt.frames`), and another attempt is made unless the one before stays open or fails for good
(`PushChannel.made`). The pushes that the channel sends are the frames of the attempts that are
made, in order (`PushChannel.pushed_acts`).

Nothing after the first close or failure is looked at: connections that are the same until then
(`Connection.SameUntilEnd`) are attempted in the same way (`PushChannel.attempt_cut_congr`).
-/

namespace RiskBoard

open Stream' (Seq)

namespace TransportEvent

/-- The text that a report brings. -/
def text? : TransportEvent → Option String
  | .text content => some content
  | .closed | .failed _ => none

/-- Whether a report leaves the connection open, as only texts do. -/
def isText (event : TransportEvent) : Bool := event.text?.isSome

/-- The message of a text that is a valid frame and no greeting. -/
def frame? (event : TransportEvent) : Option PushMessage :=
  event.text?.bind fun text => (PushMessage.ofText? text).toOption.filter fun m => !m.isGreeting

end TransportEvent

/-- What a message pushes. -/
def Inbound.pushed? : Inbound → Option PushMessage
  | .pushed push => some push
  | _ => none

namespace PushChannel

/-- How a connection ends whose first report that is no text is given, if there is one. -/
def endingAt (silent : Bool) : Option TransportEvent → Ending
  | some (.failed _) => .failed
  | some _ => .closed
  | none => if silent then .none else .closed

end PushChannel

namespace Attempt

/-- The reports of an attempt. -/
def events : Attempt → List TransportEvent
  | refused _ => []
  | opened _ arrivals _ => arrivals.map (·.event)

/-- What is heard of an attempt: the texts before the first close or failure. -/
def heard (a : Attempt) : List TransportEvent := a.events.takeWhile (·.isText)

/-- What an attempt delivers: the valid frames that are heard, greetings left out. -/
def frames (a : Attempt) : List PushMessage := a.heard.filterMap (·.frame?)

/-- How an attempt ends. -/
def ending : Attempt → PushChannel.Ending
  | refused _ => .failed
  | opened _ arrivals silent =>
    PushChannel.endingAt silent ((arrivals.map (·.event)).find? (!·.isText))

end Attempt

namespace PushChannel

/-- The attempts that are made: after one that stays open there is no other, and after one that
fails only if the channel is told to go on. -/
def made (reconnectOnError : Bool) : List Attempt → List Attempt
  | [] => []
  | a :: rest =>
    a :: if a.ending = .closed ∨ a.ending = .failed ∧ reconnectOnError = true then
      made reconnectOnError rest else []

/-- What is delivered of the attempts that are made, one after the other. -/
def delivered (reconnectOnError : Bool) (attempts : List Attempt) : List PushMessage :=
  (made reconnectOnError attempts).flatMap Attempt.frames

/-- What is pushed by some messages, in order. -/
def pushed (sent : List (Timed Inbound)) : List PushMessage := sent.filterMap (·.value.pushed?)

/-! ### Everything that is delivered, and nothing else -/

/-- What is pushed is pushed in the order of the messages. -/
theorem pushed_append (sent sent' : List (Timed Inbound)) :
    pushed (sent ++ sent') = pushed sent ++ pushed sent' :=
  List.filterMap_append

theorem frame?_text (text : String) : (TransportEvent.text text).frame? = dispatch text := by
  rw [TransportEvent.frame?, TransportEvent.text?, Option.bind_some, dispatch]
  cases h : PushMessage.ofText? text with
  | error fault => rfl
  | ok message => cases hg : message.isGreeting <;> simp [Except.toOption, Option.filter, hg]

/-- A text pushes what is dispatched of it, at most one message. -/
private theorem pushed_dispatch (time : ℕ) (text : String) :
    pushed (inbound ((dispatch text).toList.map fun m => ⟨time, .send (.pushed m)⟩)) =
      (dispatch text).toList := by
  cases dispatch text <;> rfl

/-- Listening pushes the frames up to the first report that is no text. -/
theorem pushed_listen (silent : Bool) (time : ℕ) (arrivals : List Arrival) :
    pushed (inbound (listen silent time arrivals).1) =
      ((arrivals.map (·.event)).takeWhile (·.isText)).filterMap (·.frame?) := by
  -- a text leaves the stream open, and anything else ends the listening and the texts alike
  induction arrivals generalizing time with
  | nil =>
    rw [listen]
    split_ifs <;> rfl
  | cons arrival rest ih =>
    rw [listen, List.map_cons]
    cases arrival.event with
    | closed | failed => rfl
    | text text =>
      have htext : (TransportEvent.text text).isText = true := rfl
      rw [inbound_append, pushed_append, pushed_dispatch, ih, List.takeWhile_cons_of_pos htext]
      cases hd : dispatch text with
      | none => rw [List.filterMap_cons_none ((frame?_text text).trans hd)]; rfl
      | some push => rw [List.filterMap_cons_some ((frame?_text text).trans hd)]; rfl

/-- That report, or the end of the stream, is how listening ends. -/
theorem ending_listen (silent : Bool) (time : ℕ) (arrivals : List Arrival) :
    (listen silent time arrivals).2.1 =
      endingAt silent ((arrivals.map (·.event)).find? (!·.isText)) := by
  induction arrivals generalizing time with
  | nil =>
    rw [listen]
    cases silent <;> rfl
  | cons arrival rest ih =>
    rw [listen, List.map_cons]
    cases arrival.event with
    | closed | failed => rfl
    | text text =>
      rw [List.find?_cons_of_neg (by simp [TransportEvent.isText, TransportEvent.text?])]
      exact ih _

/-- An attempt pushes its frames. -/
theorem pushed_attempt (time : ℕ) (a : Attempt) :
    pushed (inbound (attempt time a).1) = a.frames := by
  cases a with
  | refused latency => rfl
  | opened latency arrivals silent =>
    rw [attempt, inbound_append, inbound_enter, inbound_connect, inbound_append, inbound_enter,
      pushed_append, pushed_append, pushed_listen]
    rfl

/-- And ends as it is read off its reports. -/
theorem ending_attempt (time : ℕ) (a : Attempt) : (attempt time a).2.1 = a.ending := by
  cases a with
  | refused latency => rfl
  | opened latency arrivals silent => exact ending_listen silent _ arrivals

theorem pushed_afterEnding (reconnectOnError : Bool) (time : ℕ) (ending : Ending) :
    pushed (inbound (afterEnding reconnectOnError time ending).1) = [] := by
  cases ending <;> cases reconnectOnError <;> rfl

/-- The channel goes on after a close, and after a failure that is taken for one. -/
theorem goesOn_iff (reconnectOnError : Bool) (time : ℕ) (ending : Ending) :
    (afterEnding reconnectOnError time ending).2 = true ↔
      ending = .closed ∨ ending = .failed ∧ reconnectOnError = true := by
  cases ending <;> cases reconnectOnError <;> simp [afterEnding]

/-- Whatever the times and delays are, the pushes are what is delivered of the attempts. -/
theorem pushed_acts (strategy : ReconnectStrategy) (reconnectOnError : Bool) (count time : ℕ)
    (attempts : List Attempt) :
    pushed (inbound (acts strategy reconnectOnError count time attempts)) =
      delivered reconnectOnError attempts := by
  induction attempts generalizing count time with
  | nil => rfl
  | cons a rest ih =>
    rw [acts_cons, inbound_append, inbound_append, pushed_append, pushed_append, pushed_attempt,
      pushed_afterEnding, List.nil_append, delivered, made, List.flatMap_cons]
    simp only [goesOn_iff, ending_attempt]
    -- the channel goes on exactly when a further attempt is made
    split_ifs
    · rw [ih, delivered]
    · rfl

/-! ### After the end -/

end PushChannel

/-- Two connections are the same until they end: their reports are the same up to and including the
first close or failure, or throughout if there is none. -/
inductive Connection.SameUntilEnd : Connection → Connection → Prop
  | refused (latency : ℕ) : SameUntilEnd (.refused latency) (.refused latency)
  | opened (latency : ℕ) {s s' : Seq Arrival} {silent silent' : Bool}
    (harrivals : ∀ i, (∀ j < i, ∀ x ∈ s.get? j, x.event.isText) → s'.get? i = s.get? i)
    (hsilent : (∀ j, ∀ x ∈ s.get? j, x.event.isText) → silent' = silent) :
    SameUntilEnd (.opened latency s silent) (.opened latency s' silent')

namespace PushChannel

/-- Listening stops at the first report that is no text, and takes no notice of what else is
known. -/
theorem listen_congr {silent silent' : Bool} (time : ℕ) {xs ys : List Arrival}
    (harrivals : ∀ i : ℕ, (∀ j < i, ∀ x ∈ xs[j]?, x.event.isText) → ys[i]? = xs[i]?)
    (hsilent : (∀ x ∈ xs, x.event.isText) → silent' = silent) :
    listen silent' time ys = listen silent time xs := by
  induction xs generalizing ys time with
  | nil =>
    have hnone : ys[0]? = none := harrivals 0 fun j hj => absurd hj (Nat.not_lt_zero j)
    obtain rfl : ys = [] := List.eq_nil_of_length_eq_zero
      (Nat.le_zero.mp (List.getElem?_eq_none_iff.mp hnone))
    rw [hsilent fun x hx => absurd hx List.not_mem_nil]
  | cons x xs ih =>
    have hhead : ys[0]? = some x := harrivals 0 fun j hj => absurd hj (Nat.not_lt_zero j)
    obtain ⟨ys, rfl⟩ : ∃ rest, ys = x :: rest := by
      cases ys with
      | nil => cases hhead
      | cons y rest => exact ⟨rest, by rw [← Option.some.inj hhead]⟩
    rw [listen, listen]
    cases hx : x.event with
    | closed | failed => rfl
    | text text =>
      have htext : x.event.isText = true := by rw [hx]; rfl
      -- the report at hand is a text, so what is known of the others shifts by one
      have hrest : listen silent' (time + x.after) ys = listen silent (time + x.after) xs := by
        refine ih _ (fun i hi => harrivals (i + 1) fun j hj => ?_) fun h => ?_
        · cases j with
          | zero => exact fun y hy => Option.some.inj hy ▸ htext
          | succ j => exact hi j (by omega)
        · exact hsilent (List.forall_mem_cons.mpr ⟨htext, h⟩)
      rw [hrest]

/-- What comes after the end of a connection does not change the attempt. -/
theorem attempt_cut_congr {c c' : Connection} (h : c.SameUntilEnd c') (n time : ℕ) :
    attempt time (c'.cut n) = attempt time (c.cut n) := by
  cases h with
  | refused => rfl
  | @opened latency s s' silent silent' harrivals hsilent =>
    have hlisten : listen ((s'.get? n).isSome || silent') (time + latency) (s'.take n) =
        listen ((s.get? n).isSome || silent) (time + latency) (s.take n) := by
      refine listen_congr _ (fun i hi => ?_) fun htexts => ?_
      · rw [Seq.getElem?_take, Seq.getElem?_take]
        split_ifs with hin
        · refine harrivals i fun j hj => ?_
          have hj' := hi j hj
          rwa [Seq.getElem?_take, if_pos (hj.trans hin)] at hj'
        · rfl
      · -- only texts are known of the connection, so it is the same up to what comes next
        have hbefore : ∀ j < n, ∀ x ∈ s.get? j, x.event.isText := fun j hj x hx =>
          htexts x (Seq.get?_mem_take hj hx)
        rw [harrivals n hbefore]
        cases hn : s.get? n with
        | some x => rfl
        | none =>
          refine hsilent fun j x hx => ?_
          rcases lt_or_ge j n with hlt | hge
          · exact hbefore j hlt x hx
          · rw [s.le_stable hge hn] at hx
            cases hx
    rw [Connection.cut, Connection.cut, attempt, attempt, hlisten]

/-- Attempts that lead to the same at any time may replace each other. -/
theorem acts_congr {strategy : ReconnectStrategy} {reconnectOnError : Bool} {count time : ℕ}
    {xs ys : List Attempt}
    (h : List.Forall₂ (fun a b => ∀ time, attempt time b = attempt time a) xs ys) :
    acts strategy reconnectOnError count time ys =
      acts strategy reconnectOnError count time xs := by
  induction h generalizing count time with
  | nil => rfl
  | cons hab _ ih => rw [acts_cons, acts_cons, hab, ih]

end PushChannel

/-- Lists that are related place by place are related. -/
private theorem forall₂_of_getElem? {α β : Type} {R : α → β → Prop} {xs : List α} {ys : List β}
    (h : ∀ i : ℕ, Option.Rel R xs[i]? ys[i]?) : List.Forall₂ R xs ys := by
  induction xs generalizing ys with
  | nil =>
    cases ys with
    | nil => exact .nil
    | cons y ys => cases h 0
  | cons x xs ih =>
    cases ys with
    | nil => cases h 0
    | cons y ys =>
      have hhead : Option.Rel R (some x) (some y) := h 0
      obtain hxy | - := hhead
      exact .cons hxy (ih fun i => h (i + 1))

/-- Transports whose connections are the same until they end. -/
def Transport.SameUntilEnd (transport transport' : Transport) : Prop :=
  ∀ i, Option.Rel Connection.SameUntilEnd (transport.get? i) (transport'.get? i)

/-- Transports that are related attempt by attempt have related parts. -/
theorem Transport.forall₂_take {R : Connection → Connection → Prop}
    {transport transport' : Transport}
    (h : ∀ i, Option.Rel R (transport.get? i) (transport'.get? i)) (m : ℕ) :
    List.Forall₂ R (transport.take m) (transport'.take m) := by
  refine forall₂_of_getElem? fun i => ?_
  rw [Seq.getElem?_take, Seq.getElem?_take]
  split_ifs
  · exact h i
  · exact .none

namespace PushChannel

/-- Transports whose connections are the same until they end lead to the same acts. -/
theorem acts_cut_congr {strategy : ReconnectStrategy} {reconnectOnError : Bool}
    {transport transport' : Transport} (h : transport.SameUntilEnd transport') (m n : ℕ) :
    acts strategy reconnectOnError 0 0 (transport'.cut m n) =
      acts strategy reconnectOnError 0 0 (transport.cut m n) := by
  refine acts_congr ?_
  rw [Transport.cut, Transport.cut, List.forall₂_map_left_iff, List.forall₂_map_right_iff]
  exact (Transport.forall₂_take h m).imp fun c c' hc => attempt_cut_congr hc n

end PushChannel

end RiskBoard
