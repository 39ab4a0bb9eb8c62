import RiskBoard.Proofs.Session.Run

/-!
# The last writer wins

What the store holds after a run of a session, read off the messages alone. A portfolio or a
profile is the one pulled last. The risk snapshot is written in two ways, whole by pulls and figure
by figure by pushes, so it has a last writer for each figure: `Inbound.written?` says what a message
writes to a figure, and a figure that was never written is that of the zero snapshot.

The law that is kept by every message is `Store.figure_after`, about the snapshot that the next
push would be merged into; it does not ask whether there is a snapshot yet.
-/

namespace RiskBoard

/-- The value that a push about exposure carries for a figure. -/
def ExposurePush.figure (push : ExposurePush) : Figure → Option Binary64
  | .ee => push.ee
  | .epe => push.epe
  | .pfe => push.pfe
  | _ => none

/-- The value that a push carries for a figure. -/
def PushMessage.figure : PushMessage → Figure → Option Binary64
  | .connected _, _ => none
  | .risk patch, f => patch.figure f
  | .exposure push, f => push.figure f

@[simp] theorem PushMessage.figure_patch (push : PushMessage) (f : Figure) :
    push.patch.figure f = push.figure f := by
  cases push with
  | risk => rfl
  | _ => cases f <;> rfl

/-- A patch is empty if it gives no figure. -/
theorem Patch.isEmpty_iff {patch : Patch} : patch.isEmpty ↔ ∀ f, patch.figure f = none := by
  rw [isEmpty, List.isEmpty_iff, List.eq_nil_iff_forall_not_mem]
  simp

namespace Inbound

/-- The snapshot of a kind that a message pulls. -/
def pulled? (kind : Kind) : Inbound → Option Snapshot
  | .pulled snapshot => if snapshot.kind = kind then some snapshot else none
  | _ => none

/-- What a message writes to a figure. A pulled risk snapshot writes all of them, though perhaps no
total present value; a push writes those that it carries. -/
def written? (f : Figure) : Inbound → Option (Option Binary64)
  | .pulled (.risk risk) => some (risk.figure f)
  | .pushed push => (push.figure f).map some
  | _ => none

/-- Whether a message pulls a risk snapshot. -/
def isRiskPull : Inbound → Bool
  | .pulled (.risk _) => true
  | _ => false

/-- A message writes a figure if it pulls a risk snapshot or pushes the figure. -/
def Writes (f : Figure) (message : Inbound) : Prop :=
  message.isRiskPull ∨ ∃ push, message = .pushed push ∧ (push.figure f).isSome

/-- A message is silent if no write comes from it: states of the channel, visits, greetings and
pushes without a figure. -/
def IsSilent : Inbound → Prop
  | .pulled _ => False
  | .pushed push => ∀ f, push.figure f = none
  | .channel _ | .navigate _ => True

/-- A message writes a figure exactly if it gives something for it. -/
theorem writes_iff {f : Figure} {message : Inbound} :
    message.Writes f ↔ (message.written? f).isSome := by
  rcases message with (_ | _ | _) | push | _ | _ <;> simp [Writes, isRiskPull, written?]

/-- A silent message writes nothing. -/
theorem IsSilent.write?_eq_none {message : Inbound} (h : message.IsSilent) :
    message.write? = none := by
  rcases message with _ | push | _ | _
  · exact absurd h id
  · have he : push.patch.isEmpty := Patch.isEmpty_iff.mpr fun f => by rw [push.figure_patch, h f]
    simp [write?, he]
  · rfl
  · rfl

/-! ### The latest of what messages give -/

section Latest

variable {β : Type} (give : Inbound → Option β)

/-- The last of what messages give, if any of them gives something. -/
def latest (messages : List Inbound) : Option β := (messages.filterMap give).getLast?

@[simp] theorem latest_nil : latest give [] = none := rfl

/-- The last message decides, if it gives something. -/
@[simp] theorem latest_concat (messages : List Inbound) (message : Inbound) :
    latest give (messages ++ [message]) = (give message).or (latest give messages) := by
  rw [latest, List.filterMap_append]
  cases h : give message <;> simp [latest, h]

/-- Of two parts the second decides, if it gives something. -/
theorem latest_append (xs ys : List Inbound) :
    latest give (xs ++ ys) = (latest give ys).or (latest give xs) := by
  rw [latest, List.filterMap_append, List.getLast?_append]
  rfl

theorem latest_cons (message : Inbound) (rest : List Inbound) :
    latest give (message :: rest) = (latest give rest).or (give message) := by
  rw [← List.singleton_append, latest_append, ← List.nil_append [message], latest_concat,
    latest_nil, Option.or_none]

theorem isSome_latest {messages : List Inbound} :
    (latest give messages).isSome ↔ ∃ message ∈ messages, (give message).isSome := by
  rw [latest, List.getLast?_isSome]
  simp [Option.isSome_iff_ne_none]

/-- Nothing is the latest only of messages that give nothing. -/
theorem latest_eq_none_iff {messages : List Inbound} :
    latest give messages = none ↔ ∀ message ∈ messages, give message = none := by
  rw [← not_iff_not, ← ne_eq, ← Option.isSome_iff_ne_none, isSome_latest]
  simp [Option.isSome_iff_ne_none]

/-- What is the latest was given by some message. -/
theorem exists_of_latest {messages : List Inbound} {b : β} (h : latest give messages = some b) :
    ∃ message ∈ messages, give message = some b :=
  List.mem_filterMap.mp (List.mem_of_getLast? h)

/-- What a message gives is the latest if no message after it gives something. -/
theorem latest_of_last {before after : List Inbound} {message : Inbound} {b : β}
    (hm : give message = some b) (hafter : ∀ later ∈ after, give later = none) :
    latest give (before ++ message :: after) = some b := by
  rw [latest_append, latest_cons, (latest_eq_none_iff give).mpr hafter, hm, Option.none_or,
    Option.some_or]

/-- The latest of what is made of the given is made of the latest. -/
theorem latest_map {γ : Type} (g : β → γ) (messages : List Inbound) :
    latest (fun message => (give message).map g) messages = (latest give messages).map g := by
  rw [latest, latest, ← List.map_filterMap, List.getLast?_map]

theorem latest_cons_of_isSome {message : Inbound} {rest : List Inbound}
    (h : (latest give rest).isSome) : latest give (message :: rest) = latest give rest := by
  obtain ⟨last, hl⟩ := Option.isSome_iff_exists.mp h
  rw [latest_cons, hl, Option.some_or]

end Latest

/-- The messages from the last pulled risk snapshot on, or all of them if none was pulled. -/
def sinceRiskPull : List Inbound → List Inbound
  | [] => []
  | message :: rest => if rest.any isRiskPull then sinceRiskPull rest else message :: rest

/-- A pulled risk snapshot writes every figure, so no writer before the last one counts. -/
theorem latest_sinceRiskPull (f : Figure) (messages : List Inbound) :
    latest (written? f) (sinceRiskPull messages) = latest (written? f) messages := by
  induction messages with
  | nil => rfl
  | cons message rest ih =>
    rw [sinceRiskPull]
    split
    · next hany =>
      -- the pull that comes later writes the figure too, so `message` is not the last writer
      obtain ⟨pull, hmem, hpull⟩ := List.any_eq_true.mp hany
      have hwrites : (written? f pull).isSome := writes_iff.mp (.inl hpull)
      rw [ih, latest_cons_of_isSome _ ((isSome_latest _).mpr ⟨pull, hmem, hwrites⟩)]
    · rfl

end Inbound

/-! ### What one message does to the store -/

namespace Store

open Inbound

variable (store : Store) (message : Inbound)

/-- Only a pull of a kind other than risk changes what is held of it. -/
theorem current_after {kind : Kind} (hk : kind ≠ .risk) :
    (store.after message).current kind = (message.pulled? kind).or (store.current kind) := by
  rcases message with snapshot | push | _ | _
  · simp only [after, write?, Option.elim_some, apply, current_replace, pulled?]
    split <;> simp
  · simp only [after, write?, pulled?, Option.none_or]
    split
    · rfl
    · simp [apply, current_merge, hk]
  · rfl
  · rfl

/-- There are figures after a message if it writes one or there were some. -/
theorem isSome_risk_after :
    (store.after message).risk.isSome ↔ (∃ f, message.Writes f) ∨ store.risk.isSome := by
  rcases message with (_ | _ | _) | push | _ | _
  case pulled.risk => exact iff_of_true rfl (.inl ⟨.cva, .inl rfl⟩)
  case pushed =>
    by_cases he : push.patch.isEmpty
    · have hnone : ∀ f, push.figure f = none := fun f => by
        rw [← push.figure_patch, Patch.isEmpty_iff.mp he f]
      simp [after, write?, he, Writes, isRiskPull, hnone]
    · -- a push that is not ignored carries a figure, and that is what it writes
      obtain ⟨f, hf⟩ := not_forall.mp fun h => he (Patch.isEmpty_iff.mpr h)
      have hw : ∃ f, (Inbound.pushed push).Writes f :=
        ⟨f, .inr ⟨push, rfl, by rwa [← push.figure_patch, Option.isSome_iff_ne_none]⟩⟩
      simp [after, write?, he, hw, apply, merge]
  all_goals simp [after, write?, apply, replace, Writes, isRiskPull]

/-- The snapshot into which a push would be merged has, after a message, the figures that the
message writes and otherwise those that it had before. -/
theorem figure_after (f : Figure) : ((store.after message).risk.getD .zero).figure f =
    (message.written? f).getD ((store.risk.getD .zero).figure f) := by
  rcases message with (_ | _ | _) | push | _ | _
  case pushed =>
    by_cases he : push.patch.isEmpty
    · have hnone : push.figure f = none := by
        rw [← push.figure_patch, Patch.isEmpty_iff.mp he f]
      simp [after, write?, he, written?, hnone]
    · simp only [after, write?, if_neg he, Option.elim_some, apply, merge, merged,
        Option.getD_some, written?, Risk.figure_merge, PushMessage.figure_patch]
      cases push.figure f <;> rfl
  all_goals rfl

end Store

/-! ### What a run does to the store -/

namespace Session

open Inbound

variable {messages : List Inbound} {r : Reaction}

/-- What was pulled of a kind other than risk stays until it is pulled again. -/
theorem current_of_run? (h : Session.initial.run? messages = some r) {kind : Kind}
    (hk : kind ≠ .risk) : r.session.store.current kind = latest (pulled? kind) messages := by
  refine run?_induction (motive := fun messages r =>
    r.session.store.current kind = latest (pulled? kind) messages) ?_ ?_ h
  · exact Store.current_empty kind
  · intro history message r next _ ih hs
    rw [latest_concat, ← ih]
    exact store_of_step? hs ▸ r.session.store.current_after message hk

/-- There are figures once one was written. -/
theorem isSome_risk_of_run? (h : Session.initial.run? messages = some r) :
    r.session.store.risk.isSome ↔ ∃ message ∈ messages, ∃ f, message.Writes f := by
  refine run?_induction (motive := fun messages r =>
    r.session.store.risk.isSome ↔ ∃ message ∈ messages, ∃ f, message.Writes f) ?_ ?_ h
  · simp [Reaction.idle, initial, Store.empty]
  · intro history message r next _ ih hs
    have hnext := r.session.store.isSome_risk_after message
    rw [← store_of_step? hs, ih] at hnext
    refine hnext.trans ?_
    simp only [List.mem_append, List.mem_singleton]
    grind

/-- Every figure of the snapshot into which a push would be merged has its last writer. -/
theorem figure_of_run? (h : Session.initial.run? messages = some r) (f : Figure) :
    (r.session.store.risk.getD .zero).figure f =
      (latest (written? f) messages).getD (Risk.zero.figure f) := by
  refine run?_induction (motive := fun messages r => (r.session.store.risk.getD .zero).figure f =
    (latest (written? f) messages).getD (Risk.zero.figure f)) ?_ ?_ h
  · rfl
  · intro history message r next _ ih hs
    have hnext := r.session.store.figure_after message f
    rw [← store_of_step? hs, ih] at hnext
    rw [latest_concat]
    refine hnext.trans ?_
    cases message.written? f <;> rfl

/-- A silent message leaves the store as it is. -/
theorem store_after_silent {session : Session} {message : Inbound} (hm : message.IsSilent)
    (h : session.step? message = some r) : r.session.store = session.store := by
  rw [store_of_step? h, Store.after, hm.write?_eq_none]
  rfl

/-- **The last writer wins.** After a run the store holds the portfolio and the profile pulled
last, and a risk snapshot exactly if one was pulled or a figure was pushed. Each figure of it is
what the latest message that writes it says, from the last pulled snapshot on, and that of the zero
snapshot if there is none. Silent messages leave the store as it was. -/
theorem run_store_eq_latest (h : Session.initial.run? messages = some r) :
    (∀ kind, kind ≠ .risk →
      r.session.store.current kind = latest (pulled? kind) messages) ∧
    ((r.session.store.current .risk).isSome ↔ ∃ message ∈ messages, ∃ f, message.Writes f) ∧
    (∀ snapshot, r.session.store.current .risk = some snapshot → ∃ risk, snapshot = .risk risk ∧
      ∀ f, risk.figure f = (latest (written? f) (sinceRiskPull messages)).getD
        (if f = .totalPv then none else some .zero)) ∧
    ∀ before message after, messages = before ++ message :: after → message.IsSilent →
      ∃ first second, Session.initial.run? before = some first ∧
        Session.initial.run? (before ++ [message]) = some second ∧
        second.session.store = first.session.store := by
  refine ⟨fun kind hk => current_of_run? h hk, ?_, ?_, ?_⟩
  · rw [← isSome_risk_of_run? h]
    simp [Store.current]
  · intro snapshot hs
    obtain ⟨risk, hr, rfl⟩ := Option.map_eq_some_iff.mp hs
    -- with a snapshot at hand, the one into which a push would be merged is that snapshot
    refine ⟨risk, rfl, fun f => ?_⟩
    have hf := figure_of_run? h f
    rw [hr, Option.getD_some] at hf
    rw [hf, latest_sinceRiskPull]
    cases f <;> rfl
  · rintro before message after rfl hm
    rw [List.append_cons] at h
    obtain ⟨second, -, hsecond, -, -⟩ := run?_append_eq_some.mp h
    obtain ⟨first, next, hfirst, hnext, rfl⟩ := run?_append_eq_some.mp hsecond
    rw [run?_singleton] at hnext
    have hkept : next.session.store = first.session.store := store_after_silent hm hnext
    exact ⟨first, _, hfirst, hsecond, hkept⟩

/-- Pushes before and after a pull. -/
def pushesAroundPull : List Inbound :=
  [.pushed (.exposure ⟨some .one, none, some .nan⟩),
    .pulled (.risk { Risk.zero with ee := Binary64.one.neg, pfe := .one }), .navigate .exposure,
    .pushed (.risk { Patch.empty with cva := some .nan }), .channel .error]

/-- A push before the pull is overwritten by it, one after it overwrites its own figure, and what
the pull leaves out is absent. -/
theorem run_store_pushesAroundPull : ∃ r risk,
    Session.initial.run? pushesAroundPull = some r ∧
    r.session.store.current .risk = some (.risk risk) ∧ risk.figure .ee = some Binary64.one.neg ∧
    risk.figure .pfe = some .one ∧ risk.figure .cva = some .nan ∧
    risk.figure .dva = some .zero ∧ risk.figure .totalPv = none := by
  obtain ⟨r, h⟩ : ∃ r, Session.initial.run? pushesAroundPull = some r := ⟨_, rfl⟩
  obtain ⟨-, hsome, hfigures, -⟩ := run_store_eq_latest h
  obtain ⟨snapshot, hs⟩ := Option.isSome_iff_exists.mp
    (hsome.mpr ⟨_, List.mem_cons_of_mem _ List.mem_cons_self, .cva, .inl rfl⟩)
  obtain ⟨risk, rfl, hrisk⟩ := hfigures snapshot hs
  exact ⟨r, risk, h, hs, hrisk .ee, hrisk .pfe, hrisk .cva, hrisk .dva, hrisk .totalPv⟩

end Session

end RiskBoard
