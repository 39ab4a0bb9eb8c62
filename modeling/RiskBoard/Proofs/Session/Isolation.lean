import Mathlib.Data.List.Basic
import RiskBoard.Proofs.Push.Decoding

/-!
# Pushes stay in the risk snapshot

A run is compared with the run without its pushes. `Session.AgreesOffRisk` relates two sessions
that differ in their risk snapshots at most. A message that is no push does the same to both and
they still agree (`Session.AgreesOffRisk.step?`); a push changes one of them, and it still agrees
with the other (`Session.agreesOffRisk_of_push`). So the two runs end in agreement, ask for the same
fetches, and tell the same but for the merges (`Session.run?_withoutPushes`).

Within the risk snapshot, frames do not reach the stated sum of adjustments, so that figure is the
one pulled last (`Session.totalXva_of_run?`).
-/

namespace RiskBoard

namespace Inbound

/-- Whether a message is a push. -/
def isPush : Inbound → Bool
  | .pushed _ => true
  | _ => false

/-- The messages of a run without its pushes. -/
def withoutPushes (messages : List Inbound) : List Inbound :=
  messages.filter fun message => !message.isPush

/-- The risk snapshot that a message pulls. -/
def risk? : Inbound → Option Risk
  | .pulled (.risk risk) => some risk
  | _ => none

/-- A message that carries no sum of adjustments unless it pulls one. -/
theorem written?_totalXva {message : Inbound}
    (h : ∀ push, message = .pushed push → push.figure .totalXva = none) :
    message.written? .totalXva = message.risk?.map fun risk => some risk.totalXva := by
  rcases message with (_ | _ | _) | push | _ | _
  case pushed =>
    rw [written?, h push rfl]
    rfl
  all_goals rfl

end Inbound

namespace Event

/-- Whether an event tells of a merge. -/
def isMerge : Event → Bool
  | .dataset (.merged _ _) => true
  | _ => false

/-- What is told besides merges: replacements, drawings, the connection and the active view. -/
def withoutMerges (events : List Event) : List Event := events.filter fun event => !event.isMerge

end Event

namespace Session

open Inbound Event

variable {s t session : Session} {message : Inbound} {messages : List Inbound}
  {r next : Reaction}

/-- Two sessions agree off risk if all but their risk snapshots are the same. -/
structure AgreesOffRisk (s t : Session) : Prop where
  portfolio : s.store.current .portfolio = t.store.current .portfolio
  exposure : s.store.current .exposure = t.store.current .exposure
  chart : s.chart = t.chart
  active : s.active = t.active

theorem AgreesOffRisk.refl (s : Session) : s.AgreesOffRisk s := ⟨rfl, rfl, rfl, rfl⟩

theorem AgreesOffRisk.symm (h : s.AgreesOffRisk t) : t.AgreesOffRisk s :=
  ⟨h.portfolio.symm, h.exposure.symm, h.chart.symm, h.active.symm⟩

theorem AgreesOffRisk.trans {u : Session} (h : s.AgreesOffRisk t) (h' : t.AgreesOffRisk u) :
    s.AgreesOffRisk u where
  portfolio := h.portfolio.trans h'.portfolio
  exposure := h.exposure.trans h'.exposure
  chart := h.chart.trans h'.chart
  active := h.active.trans h'.active

/-! ### One message -/

/-- Sessions that agree still do so after the same write. -/
theorem AgreesOffRisk.replace (h : s.AgreesOffRisk t) (snapshot : Snapshot) :
    (s.write (.replace snapshot)).session.AgreesOffRisk
      (t.write (.replace snapshot)).session where
  portfolio := by
    simp only [write, Store.apply, Store.current_replace]
    split
    · rfl
    · exact h.portfolio
  exposure := by
    simp only [write, Store.apply, Store.current_replace]
    split
    · rfl
    · exact h.exposure
  chart := h.chart
  active := h.active

theorem AgreesOffRisk.charted (h : s.AgreesOffRisk t) (series : ExposureSeries) :
    (s.charted series).AgreesOffRisk (t.charted series) where
  portfolio := (h.replace (.exposure series)).portfolio
  exposure := (h.replace (.exposure series)).exposure
  chart := congrArg (·.next series) h.chart
  active := h.active

/-- A message that is no push does to sessions that agree the same, and tells no merge. -/
theorem AgreesOffRisk.step? (h : s.AgreesOffRisk t) (hm : message.isPush = false)
    (hs : s.step? message = some next) :
    ∃ next', t.step? message = some next' ∧ next'.session.AgreesOffRisk next.session ∧
      next'.events = withoutMerges next.events ∧ next'.fetches = next.fetches := by
  cases step?_eq_some_iff.mp hs with
  | replaced snapshot hk =>
    exact ⟨_, step?_eq_some_iff.mpr (.replaced snapshot hk), h.symm.replace snapshot, rfl, rfl⟩
  | drawn series update hd =>
    rw [h.chart] at hd
    exact ⟨_, step?_eq_some_iff.mpr (.drawn series update hd), h.symm.charted series, rfl, rfl⟩
  | undrawn series hd =>
    rw [h.chart] at hd
    exact ⟨_, step?_eq_some_iff.mpr (.undrawn series hd), h.symm.charted series, rfl, rfl⟩
  | merged | ignored => simp [isPush] at hm
  | told state => exact ⟨_, rfl, h.symm, by cases state <;> rfl, rfl⟩
  | visited view =>
    refine ⟨_, rfl, ⟨h.symm.portfolio, h.symm.exposure, h.symm.chart, rfl⟩, ?_, rfl⟩
    simp only [takeNavigation, h.active]
    rfl

/-- A push leaves all but the risk snapshot as it was, and tells a merge at most. -/
theorem agreesOffRisk_of_push {push : PushMessage}
    (hs : session.step? (.pushed push) = some next) :
    session.AgreesOffRisk next.session ∧ withoutMerges next.events = [] ∧ next.fetches = [] := by
  cases step?_eq_some_iff.mp hs with
  | merged _ he => exact ⟨⟨rfl, rfl, rfl, rfl⟩, rfl, rfl⟩
  | ignored _ he => exact ⟨.refl session, rfl, rfl⟩

/-! ### Runs -/

theorem withoutPushes_concat_of_push (push : PushMessage) :
    withoutPushes (messages ++ [.pushed push]) = withoutPushes messages := by
  rw [withoutPushes, List.filter_append, List.filter_cons_of_neg (by simp [isPush]),
    List.filter_nil, List.append_nil]
  rfl

theorem withoutPushes_concat (h : message.isPush = false) :
    withoutPushes (messages ++ [message]) = withoutPushes messages ++ [message] := by
  rw [withoutPushes, List.filter_append, List.filter_cons_of_pos (by simpa using h),
    List.filter_nil]
  rfl

theorem withoutMerges_append (xs ys : List Event) :
    withoutMerges (xs ++ ys) = withoutMerges xs ++ withoutMerges ys :=
  List.filter_append xs ys

/-- The run without pushes ends where the run with them ends, but for the risk snapshot. -/
theorem run?_withoutPushes (h : Session.initial.run? messages = some r) :
    ∃ r', Session.initial.run? (withoutPushes messages) = some r' ∧
      r'.session.AgreesOffRisk r.session ∧ r'.events = withoutMerges r.events ∧
      r'.fetches = r.fetches := by
  refine run?_induction (motive := fun messages r =>
    ∃ r', Session.initial.run? (withoutPushes messages) = some r' ∧
      r'.session.AgreesOffRisk r.session ∧ r'.events = withoutMerges r.events ∧
      r'.fetches = r.fetches) ?_ ?_ h
  · exact ⟨_, rfl, .refl _, rfl, rfl⟩
  · rintro history message r next _ ⟨r', hr', hagree, hevents, hfetches⟩ hs
    have hsplit : (r.andThen next).events = r.events ++ next.events := rfl
    rw [hsplit, withoutMerges_append]
    cases hm : message.isPush with
    | true =>
      -- the message is left out of the one run, and in the other it changes the risk snapshot alone
      obtain ⟨push, rfl⟩ : ∃ push, message = .pushed push := by
        cases message <;> simp_all [isPush]
      obtain ⟨hkept, hnone, hno⟩ := agreesOffRisk_of_push hs
      refine ⟨r', ?_, hagree.trans hkept, ?_, ?_⟩
      · rw [withoutPushes_concat_of_push, hr']
      · rw [hnone, List.append_nil, hevents]
      · rw [hfetches, Reaction.andThen, hno, List.append_nil]
    | false =>
      obtain ⟨next', hnext, hagree', hevents', hfetches'⟩ := hagree.symm.step? hm hs
      refine ⟨r'.andThen next', ?_, hagree', ?_, ?_⟩
      · rw [withoutPushes_concat hm]
        exact run?_append_eq_some.mpr ⟨r', next', hr', by rw [run?_singleton, hnext], rfl⟩
      · rw [Reaction.andThen, hevents, hevents']
      · rw [Reaction.andThen, hfetches, hfetches']
        rfl

/-- Unless a push carries it, the stated sum of adjustments is the one pulled last, or zero. -/
theorem totalXva_of_run? (h : Session.initial.run? messages = some r)
    (hpush : ∀ push, .pushed push ∈ messages → push.figure .totalXva = none) {risk : Risk}
    (hrisk : r.session.store.risk = some risk) :
    risk.totalXva = (latest risk? messages).elim .zero (·.totalXva) := by
  have hf := figure_of_run? h .totalXva
  have hwritten : latest (written? .totalXva) messages =
      (latest risk? messages).map fun risk => some risk.totalXva := by
    rw [← latest_map, latest, latest]
    refine congrArg _ (List.filterMap_congr fun message hmem => ?_)
    exact written?_totalXva fun push hp => hpush push (hp ▸ hmem)
  rw [hrisk, hwritten, Option.getD_some] at hf
  cases hl : latest risk? messages with
  | none =>
    rw [hl] at hf
    exact Option.some.inj hf
  | some pulled =>
    rw [hl] at hf
    exact Option.some.inj hf

/-- **Pushes stay in the risk snapshot.** The run without its pushes is possible too, and it leaves
the same portfolio, profile, chart and active view, asks for the same fetches, and tells the same
but for the merges, of which it tells none. If all pushes were decoded from frames, then after every
prefix of the run the stated sum of adjustments is the one pulled last, or zero if none was
pulled. -/
theorem run_pushes_isolated (h : Session.initial.run? messages = some r) :
    (∃ r', Session.initial.run? (withoutPushes messages) = some r' ∧
      r'.session.store.current .portfolio = r.session.store.current .portfolio ∧
      r'.session.store.current .exposure = r.session.store.current .exposure ∧
      r'.session.chart = r.session.chart ∧ r'.session.active = r.session.active ∧
      r'.fetches = r.fetches ∧ r'.events = withoutMerges r.events) ∧
    ((∀ push, .pushed push ∈ messages → ∃ text, PushMessage.ofText? text = .ok push) →
      ∀ before after, messages = before ++ after →
        ∃ first, Session.initial.run? before = some first ∧
          ∀ risk, first.session.store.risk = some risk →
            risk.totalXva = (latest risk? before).elim .zero (·.totalXva)) := by
  constructor
  · obtain ⟨r', hr', hagree, hevents, hfetches⟩ := run?_withoutPushes h
    exact ⟨r', hr', hagree.portfolio, hagree.exposure, hagree.chart, hagree.active, hfetches,
      hevents⟩
  · rintro hdecoded before after rfl
    obtain ⟨first, -, hfirst, -, -⟩ := run?_append_eq_some.mp h
    refine ⟨first, hfirst, fun risk hrisk => totalXva_of_run? hfirst ?_ hrisk⟩
    intro push hmem
    obtain ⟨text, htext⟩ := hdecoded push (List.mem_append_left after hmem)
    exact PushMessage.figure_totalXva_of_ofText? htext

/-- A frame that names the stated sum of adjustments beside a figure that it may push. -/
def frameWithSum : String :=
  "\x7b\"type\":\"risk\",\"data\":\x7b\"cva\":1,\"total_xva\":999\x7d\x7d"

/-- What the frame pushes. -/
def pushWithoutSum : PushMessage := .risk { Patch.empty with cva := some .one }

/-- A pulled risk snapshot, the frame, and a visit. -/
def frameAfterPull : List Inbound :=
  [.pulled (.risk { Risk.zero with totalXva := .one }), .pushed pushWithoutSum,
    .navigate .exposure]

/-- The frame changes one figure, and not the sum that it names; without it the run tells one event
less. -/
theorem run_pushes_frameAfterPull : ∃ r r' risk,
    Session.initial.run? frameAfterPull = some r ∧
    Session.initial.run? (withoutPushes frameAfterPull) = some r' ∧
    r'.session.active = .exposure ∧ r'.events = withoutMerges r.events ∧ r.events.length = 3 ∧
    r'.events.length = 2 ∧ r.session.store.risk = some risk ∧ risk.totalXva = .one ∧
    risk.cva = .one := by
  obtain ⟨r, h⟩ : ∃ r, Session.initial.run? frameAfterPull = some r := ⟨_, rfl⟩
  obtain ⟨⟨r', hr', -, -, -, hactive, -, hevents⟩, hsum⟩ := run_pushes_isolated h
  have hframe : PushMessage.ofText? frameWithSum = .ok pushWithoutSum :=
    PushMessage.ofText?_eq_ok_of_toOption (by decide +kernel)
  have hdecoded : ∀ push, .pushed push ∈ frameAfterPull →
      ∃ text, PushMessage.ofText? text = .ok push := by
    intro push hmem
    obtain rfl : push = pushWithoutSum := by simpa [frameAfterPull] using hmem
    exact ⟨frameWithSum, hframe⟩
  obtain ⟨first, hfirst, hrisk⟩ := hsum hdecoded frameAfterPull [] (List.append_nil _).symm
  obtain rfl : first = r := Option.some.inj (hfirst.symm.trans h)
  cases h
  exact ⟨_, r', _, rfl, hr', hactive, hevents, rfl, by rw [hevents]; rfl, rfl, hrisk _ rfl, rfl⟩

end Session

end RiskBoard
