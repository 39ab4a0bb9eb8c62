import Mathlib.Data.List.Induction
import RiskBoard.Session

/-!
# Runs of a session

`Session.Step` lists what one message can do to a session, and `Session.step?_eq_some_iff` says
that a session does exactly that; every law about sessions is a case analysis of it. A run over a
list of messages ends where the run over its first part and then over the rest ends
(`Session.run?_append`), so what holds before the first message and is kept by each further one
holds of all runs (`Session.run?_induction`).

Of the parts of a session, the store takes the *write* of a message (`Inbound.write?`) and the
chart takes its *profile* (`Inbound.series?`); no message reaches both but a pulled profile.
-/

namespace RiskBoard

namespace Inbound

/-- The write to the store that a message amounts to. -/
def write? : Inbound → Option Write
  | .pulled snapshot => some (.replace snapshot)
  | .pushed message => if message.patch.isEmpty then none else some (.merge message.patch)
  | .channel _ | .navigate _ => none

/-- The forward exposure profile that a message pulls. -/
def series? : Inbound → Option ExposureSeries
  | .pulled (.exposure series) => some series
  | _ => none

end Inbound

/-- The store after a message. -/
def Store.after (store : Store) (message : Inbound) : Store := message.write?.elim store store.apply

@[simp] theorem Reaction.andThen_idle (r : Reaction) : r.andThen (.idle r.session) = r := by
  simp [Reaction.andThen, Reaction.idle]

namespace Session

/-! ### One message -/

/-- The session after a profile that the chart can draw. -/
def charted (session : Session) (series : ExposureSeries) : Session :=
  { session with
    store := session.store.replace (.exposure series)
    chart := session.chart.next series }

/-- What one message can do to a session. -/
inductive Step (session : Session) : Inbound → Reaction → Prop
  /-- A pulled portfolio or risk snapshot goes to the store alone. -/
  | replaced (snapshot : Snapshot) (h : snapshot.kind ≠ .exposure) :
    Step session (.pulled snapshot) (session.write (.replace snapshot))
  /-- A profile is written, and then its drawing is told. -/
  | drawn (series : ExposureSeries) (update : ChartUpdate)
    (h : session.chart.draw series = .drawn update) :
    Step session (.pulled (.exposure series))
      ⟨session.charted series, [.dataset (.replaced (.exposure series)), .chart update], []⟩
  /-- An empty profile before the first chart is only written. -/
  | undrawn (series : ExposureSeries) (h : session.chart.draw series = .nothing) :
    Step session (.pulled (.exposure series))
      ⟨session.charted series, [.dataset (.replaced (.exposure series))], []⟩
  | merged (message : PushMessage) (h : message.patch.isEmpty = false) :
    Step session (.pushed message) (session.write (.merge message.patch))
  | ignored (message : PushMessage) (h : message.patch.isEmpty) :
    Step session (.pushed message) (.idle session)
  | told (state : ChannelState) : Step session (.channel state) (session.takeChannel state)
  | visited (view : View) : Step session (.navigate view) (session.takeNavigation view)

/-- The steps of a session, message by message. -/
theorem step?_eq_some_iff {session : Session} {message : Inbound} {r : Reaction} :
    session.step? message = some r ↔ Step session message r := by
  constructor
  · intro h
    rcases message with snapshot | push | state | view
    · -- only a profile is looked at by the chart, and only it can lead nowhere
      rcases snapshot with p | risk | series
      · cases h
        exact .replaced (.portfolio p) (by simp [Snapshot.kind])
      · cases h
        exact .replaced (.risk risk) (by simp [Snapshot.kind])
      · simp only [step?, takeExposure?, write] at h
        cases hd : session.chart.draw series with
        | nothing =>
          rw [hd] at h
          cases h
          exact .undrawn series hd
        | drawn update =>
          rw [hd] at h
          cases h
          exact .drawn series update hd
        | overflow => simp [hd] at h
    · simp only [step?, takePush, Option.some.injEq] at h
      by_cases he : push.patch.isEmpty = true
      · rw [if_pos he] at h
        exact h ▸ .ignored push he
      · rw [if_neg he] at h
        exact h ▸ .merged push (by simpa using he)
    · cases h
      exact .told state
    · cases h
      exact .visited view
  · rintro (⟨snapshot, h⟩ | ⟨series, update, h⟩ | ⟨series, h⟩ | ⟨push, h⟩ | ⟨push, h⟩ | _ | _)
    · cases snapshot with
      | exposure series => exact absurd rfl h
      | _ => rfl
    · simp [step?, takeExposure?, write, charted, Store.apply, Store.update, h]
    · simp [step?, takeExposure?, write, charted, Store.apply, Store.update, h]
    · simp [step?, takePush, h]
    · simp [step?, takePush, h, Reaction.idle]
    · rfl
    · rfl

variable {session : Session} {message : Inbound} {messages before after : List Inbound}
  {r : Reaction}

/-- What a step does to the store is what the message writes. -/
theorem store_of_step? (h : session.step? message = some r) :
    r.session.store = session.store.after message := by
  cases step?_eq_some_iff.mp h <;>
    simp_all [Store.after, Inbound.write?, write, charted, Store.apply, Reaction.idle, takeChannel,
      takeNavigation]

/-- The chart after a message has taken its profile. -/
theorem chart_of_step? (h : session.step? message = some r) :
    r.session.chart = message.series?.elim session.chart session.chart.next := by
  cases step?_eq_some_iff.mp h with
  | replaced snapshot hk => cases snapshot <;> simp_all [Inbound.series?, write, Snapshot.kind]
  | _ => rfl

/-! ### Runs -/

@[simp] theorem run?_nil : session.run? [] = some (.idle session) := rfl

theorem run?_cons : session.run? (message :: messages) =
    (session.step? message).bind fun first => (first.session.run? messages).map first.andThen := by
  cases h : session.step? message with
  | none => simp [run?, h]
  | some first => cases h' : first.session.run? messages <;> simp [run?, h, h']

/-- A run may be cut in two, the second part going on where the first one stopped. -/
theorem run?_append : session.run? (before ++ after) =
    (session.run? before).bind fun first => (first.session.run? after).map first.andThen := by
  induction before generalizing session with
  | nil =>
    change session.run? after = (session.run? after).map id
    rw [Option.map_id_fun, id]
  | cons message rest ih =>
    rw [List.cons_append, run?_cons, run?_cons]
    cases hs : session.step? message with
    | none => rfl
    | some first =>
      -- the rest runs from where the message led, so the induction is for all sessions
      simp only [Option.bind_some, ih]
      cases hr : first.session.run? rest with
      | none => rfl
      | some second =>
        cases hc : second.session.run? after with
        | none => simp [Reaction.andThen, hc]
        | some third => simp [Reaction.andThen, hc]

theorem run?_singleton : session.run? [message] = session.step? message := by
  rw [run?_cons]
  cases session.step? message <;> simp

/-- A run over two lists is a run over the first, and from where that ends one over the second. -/
theorem run?_append_eq_some : session.run? (before ++ after) = some r ↔
    ∃ first second, session.run? before = some first ∧
      first.session.run? after = some second ∧ first.andThen second = r := by
  rw [run?_append]
  constructor
  · intro h
    obtain ⟨first, hf, h⟩ := Option.bind_eq_some_iff.mp h
    obtain ⟨second, hs, h⟩ := Option.map_eq_some_iff.mp h
    exact ⟨first, second, hf, hs, h⟩
  · rintro ⟨first, second, hf, hs, rfl⟩
    simp [hf, hs]

/-- What holds before the first message, and is kept by each message that comes after a history,
holds of all runs. -/
theorem run?_induction {motive : List Inbound → Reaction → Prop}
    (idle : motive [] (.idle session))
    (step : ∀ history message r next, session.run? history = some r → motive history r →
      r.session.step? message = some next → motive (history ++ [message]) (r.andThen next))
    (h : session.run? messages = some r) : motive messages r := by
  induction messages using List.reverseRecOn generalizing r with
  | nil =>
    cases h
    exact idle
  | append_singleton history message ih =>
    obtain ⟨first, next, hf, hn, rfl⟩ := run?_append_eq_some.mp h
    rw [run?_singleton] at hn
    exact step history message first next hf (ih hf) hn

end Session

end RiskBoard
