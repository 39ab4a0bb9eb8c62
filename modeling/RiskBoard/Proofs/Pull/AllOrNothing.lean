import RiskBoard.Proofs.Chart.Scale
import RiskBoard.Proofs.Dataset.Offsets
import RiskBoard.Proofs.Session.Run
import RiskBoard.Pull.Response
import RiskBoard.Pull.Source

/-!
# A pull is all or nothing

A pull gives a snapshot exactly if there is a response, of a success status, whose text holds one
(`Pull.snapshot_eq_ok_iff`). Each stage can only fail as a whole: a text is read from its first
character to its last, and the points of forward exposure become a series all together or not at
all. Which stage failed is told by the failure: that of the network if the request was refused
(`Pull.snapshot_of_isRefused`), the client's own if the body was not received
(`Pull.snapshot_of_bodyFault`), and one to decode if the text holds no snapshot
(`Pull.snapshot_of_not_holds`).

What is given is of the kind that was asked for, so of the store it replaces that kind alone, and
only forward exposure reaches the chart (`Session.hasTaken_of_step?`). A failure is no message and
changes nothing (`Exchange.settle?_pull`).

One thing comes between the two: a profile may be accepted and yet be more than the chart can draw,
which it is asked to do before the store is written. Then there is no next session
(`Exchange.settle?_pull_leastSpread`).
-/

namespace RiskBoard

namespace Pull

variable {base url text : String} {kind : Kind} {outcome : PullOutcome} {status : Nat}
  {body : Except BodyFault String} {s : Snapshot} {failure : Failure} {α : Type}
  {read : Json.Reader α} {v : α}

/-! ### What a response brings -/

/-- What a text holds of a kind: a value that is read from all of it, and for forward exposure one
whose offsets are not negative and strictly increase. -/
inductive Holds (text : String) : Kind → Snapshot → Prop
  | portfolio {p : Portfolio} (h : Json.readText Portfolio.read text = .ok p) :
    Holds text .portfolio (.portfolio p)
  | risk {r : Risk} (h : Json.readText Risk.read text = .ok r) : Holds text .risk (.risk r)
  | exposure {points : List ExposurePoint}
    (h : Json.readText ExposureSeries.readPoints text = .ok points)
    (haxis : IsAxis (points.map (·.time))) :
    Holds text .exposure (.exposure ⟨points, AxisFault.first?_eq_none_iff.mpr haxis⟩)

/-- What the outcome of a request brings: a success whose text was received and holds it. -/
inductive Brings (kind : Kind) : PullOutcome → Snapshot → Prop
  | intro {status : Nat} {text : String} {s : Snapshot} (hstatus : 200 ≤ status ∧ status ≤ 299)
    (h : Holds text kind s) : Brings kind (.response status (.ok text)) s

/-- A request is refused if there is no response, or one that is no success. -/
inductive IsRefused : PullOutcome → Prop
  | unreachable {reason : String} : IsRefused (.unreachable reason)
  | status {status : Nat} {body : Except BodyFault String}
    (hstatus : ¬ (200 ≤ status ∧ status ≤ 299)) : IsRefused (.response status body)

/-- A text holds snapshots only of the kind that is asked for. -/
theorem Holds.kind_eq (h : Holds text kind s) : s.kind = kind := by cases h <;> rfl

theorem Brings.kind_eq (h : Brings kind outcome s) : s.kind = kind := by
  obtain ⟨-, h⟩ := h
  exact h.kind_eq

/-- The statuses of success are those from 200 to 299. -/
theorem isSuccess_eq_true_iff : isSuccess status = true ↔ 200 ≤ status ∧ status ≤ 299 := by
  rw [isSuccess, Bool.and_eq_true, decide_eq_true_iff, decide_eq_true_iff]

/-! ### Values -/

/-- A success whose body was not received fails as the client says. -/
theorem value_of_bodyFault (url : String) (read : Json.Reader α) (fault : BodyFault)
    (hstatus : 200 ≤ status ∧ status ≤ 299) :
    value url read (.response status (.error fault)) = .error fault.failure := by
  simp only [value, isSuccess_eq_true_iff.mpr hstatus, if_true]

theorem value_of_readText_eq_ok (url : String) (hstatus : 200 ≤ status ∧ status ≤ 299)
    (h : Json.readText read text = .ok v) :
    value url read (.response status (.ok text)) = .ok v := by
  simp only [value, isSuccess_eq_true_iff.mpr hstatus, if_true, h]

/-- A text that cannot be read fails to be decoded, and the address is named. -/
theorem value_of_readText_eq_error {fault : Json.Fault} (url : String)
    (hstatus : 200 ≤ status ∧ status ≤ 299) (h : Json.readText read text = .error fault) :
    value url read (.response status (.ok text)) =
      .error (.decode s!"GET {url}: {fault.message}") := by
  simp only [value, isSuccess_eq_true_iff.mpr hstatus, if_true, h]

/-- Whatever was to be read, a request that is refused fails with the same failure. -/
theorem exists_value_of_isRefused (url : String) (h : IsRefused outcome) :
    ∃ d, ∀ {α : Type} (read : Json.Reader α), value url read outcome = .error (.network d) := by
  cases h with
  | unreachable => exact ⟨_, fun read => rfl⟩
  | @status status _ hstatus =>
    refine ⟨s!"GET {url}: API error: " ++ statusText status, fun read => ?_⟩
    simp only [value, mt isSuccess_eq_true_iff.mp hstatus, if_false, Bool.false_eq_true]

/-- A value comes only from the text of a success. -/
theorem value_eq_ok_iff : value url read outcome = .ok v ↔ ∃ status text,
    outcome = .response status (.ok text) ∧ (200 ≤ status ∧ status ≤ 299) ∧
      Json.readText read text = .ok v := by
  constructor
  · intro h
    by_cases hrefused : IsRefused outcome
    · obtain ⟨d, hvalue⟩ := exists_value_of_isRefused url hrefused
      rw [hvalue read] at h
      cases h
    · rcases outcome with reason | ⟨status, fault | text⟩
      · exact absurd .unreachable hrefused
      · rw [value_of_bodyFault url read fault (not_not.mp (mt .status hrefused))] at h
        cases h
      · have hstatus : 200 ≤ status ∧ status ≤ 299 := not_not.mp (mt .status hrefused)
        cases hread : Json.readText read text with
        | error fault =>
          rw [value_of_readText_eq_error url hstatus hread] at h
          cases h
        | ok w =>
          rw [value_of_readText_eq_ok url hstatus hread] at h
          cases h
          exact ⟨status, text, rfl, hstatus, hread⟩
  · rintro ⟨status, text, rfl, hstatus, hread⟩
    exact value_of_readText_eq_ok url hstatus hread

/-! ### Results -/

section Results

variable {ε β : Type} {x : Except ε α} {f : α → β} {g : α → Except ε β} {a : α} {y : β}

private theorem map_eq_ok_iff : x.map f = .ok y ↔ ∃ a, x = .ok a ∧ f a = y := by
  cases x <;> simp [Except.map]

private theorem bind_eq_ok_iff : x.bind g = .ok y ↔ ∃ a, x = .ok a ∧ g a = .ok y := by
  cases x <;> simp [Except.bind]

private theorem toOption_eq_some_iff : x.toOption = some a ↔ x = .ok a := by
  cases x <;> simp [Except.toOption]

end Results

/-! ### Snapshots -/

/-- The points in the answer for forward exposure become a series or have a fault. -/
theorem snapshot_exposure (base : String) (outcome : PullOutcome) :
    snapshot base .exposure outcome =
      (value (address base Kind.exposure.name) ExposureSeries.readPoints outcome).bind
        fun points => match ExposureSeries.ofPoints points with
          | .ok series => .ok (.exposure series)
          | .error fault => .error fault.failure := rfl

/-- **All.** A pull gives a snapshot exactly if its outcome brings it. -/
theorem snapshot_eq_ok_iff : snapshot base kind outcome = .ok s ↔ Brings kind outcome s := by
  constructor
  · intro h
    cases kind with
    | portfolio =>
      obtain ⟨p, hvalue, rfl⟩ := map_eq_ok_iff.mp h
      obtain ⟨status, text, rfl, hstatus, hread⟩ := value_eq_ok_iff.mp hvalue
      exact .intro hstatus (.portfolio hread)
    | risk =>
      obtain ⟨r, hvalue, rfl⟩ := map_eq_ok_iff.mp h
      obtain ⟨status, text, rfl, hstatus, hread⟩ := value_eq_ok_iff.mp hvalue
      exact .intro hstatus (.risk hread)
    | exposure =>
      rw [snapshot_exposure] at h
      obtain ⟨points, hvalue, hseries⟩ := bind_eq_ok_iff.mp h
      obtain ⟨status, text, rfl, hstatus, hread⟩ := value_eq_ok_iff.mp hvalue
      split at hseries
      case h_1 series hpoints =>
        cases hseries
        obtain rfl := ExposureSeries.ofPoints_eq_ok_iff.mp hpoints
        exact .intro hstatus (.exposure hread series.isAxis)
      case h_2 => cases hseries
  · rintro ⟨hstatus, h⟩
    cases h with
    | portfolio hread =>
      exact map_eq_ok_iff.mpr ⟨_, value_eq_ok_iff.mpr ⟨_, _, rfl, hstatus, hread⟩, rfl⟩
    | risk hread =>
      exact map_eq_ok_iff.mpr ⟨_, value_eq_ok_iff.mpr ⟨_, _, rfl, hstatus, hread⟩, rfl⟩
    | @exposure points hread haxis =>
      have hpoints : ExposureSeries.ofPoints points =
          .ok ⟨points, AxisFault.first?_eq_none_iff.mpr haxis⟩ :=
        ExposureSeries.ofPoints_eq_ok_iff.mpr rfl
      rw [snapshot_exposure, bind_eq_ok_iff]
      refine ⟨points, value_eq_ok_iff.mpr ⟨_, _, rfl, hstatus, hread⟩, ?_⟩
      rw [hpoints]

/-- A failure to have any value is one to have the snapshot. -/
theorem snapshot_eq_error
    (h : ∀ {α : Type} (read : Json.Reader α),
      value (address base kind.name) read outcome = .error failure) :
    snapshot base kind outcome = .error failure := by
  cases kind with
  | portfolio => exact congrArg (Except.map Snapshot.portfolio) (h Portfolio.read)
  | risk => exact congrArg (Except.map Snapshot.risk) (h Risk.read)
  | exposure =>
    rw [snapshot_exposure, h ExposureSeries.readPoints]
    rfl

/-- **Or nothing.** A request that is refused fails for the network, whatever the body holds. -/
theorem snapshot_of_isRefused (base : String) (kind : Kind) (h : IsRefused outcome) :
    ∃ d, snapshot base kind outcome = .error (.network d) := by
  obtain ⟨d, hvalue⟩ := exists_value_of_isRefused (address base kind.name) h
  exact ⟨d, snapshot_eq_error hvalue⟩

/-- Without a body the failure is the client's. -/
theorem snapshot_of_bodyFault (base : String) (kind : Kind) (fault : BodyFault)
    (hstatus : 200 ≤ status ∧ status ≤ 299) :
    snapshot base kind (.response status (.error fault)) = .error fault.failure :=
  snapshot_eq_error fun read => value_of_bodyFault _ read fault hstatus

/-- A text that holds no snapshot of the kind fails to be decoded. -/
theorem snapshot_of_not_holds (base : String) (hstatus : 200 ≤ status ∧ status ≤ 299)
    (hnone : ∀ s, ¬ Holds text kind s) :
    ∃ d, snapshot base kind (.response status (.ok text)) = .error (.decode d) := by
  cases kind with
  | portfolio =>
    cases hread : Json.readText Portfolio.read text with
    | ok p => exact absurd (.portfolio hread) (hnone _)
    | error fault =>
      exact ⟨_, congrArg (Except.map Snapshot.portfolio)
        (value_of_readText_eq_error _ hstatus hread)⟩
  | risk =>
    cases hread : Json.readText Risk.read text with
    | ok r => exact absurd (.risk hread) (hnone _)
    | error fault =>
      exact ⟨_, congrArg (Except.map Snapshot.risk) (value_of_readText_eq_error _ hstatus hread)⟩
  | exposure =>
    rw [snapshot_exposure]
    cases hread : Json.readText ExposureSeries.readPoints text with
    | error fault =>
      rw [value_of_readText_eq_error _ hstatus hread]
      exact ⟨_, rfl⟩
    | ok points =>
      rw [value_of_readText_eq_ok _ hstatus hread]
      have hrefused : ¬ ∃ series, ExposureSeries.ofPoints points = .ok series := fun haccepted =>
        hnone _ (.exposure hread (ExposureSeries.exists_ofPoints_eq_ok_iff.mp haccepted))
      cases hpoints : ExposureSeries.ofPoints points with
      | ok series => exact absurd ⟨series, hpoints⟩ hrefused
      | error fault =>
        refine ⟨fault.message, ?_⟩
        simp only [Except.bind, hpoints]
        rfl

end Pull

/-! ### Deliveries -/

namespace Session

variable {session : Session} {s : Snapshot} {r : Reaction}

/-- A session has taken a snapshot: it is the current one of its kind, a profile was given to the
chart, and the rest is as before. -/
structure HasTaken (before : Session) (s : Snapshot) (after : Session) : Prop where
  current : after.store.current s.kind = some s
  others : ∀ kind, kind ≠ s.kind → after.store.current kind = before.store.current kind
  charted : ∀ series, s = .exposure series → after.chart = before.chart.next series
  uncharted : s.kind ≠ .exposure → after.chart = before.chart
  active : after.active = before.active

/-- A step with a pulled snapshot takes it. -/
theorem hasTaken_of_step? (h : session.step? (.pulled s) = some r) :
    session.HasTaken s r.session where
  current := by
    rw [store_of_step? h]
    exact (Store.current_replace ..).trans (if_pos rfl)
  others := by
    intro kind hne
    rw [store_of_step? h]
    exact (Store.current_replace ..).trans (if_neg hne.symm)
  charted := by
    rintro series rfl
    exact chart_of_step? h
  uncharted := by
    intro hne
    have hchart := chart_of_step? h
    cases s with
    | exposure => exact absurd rfl hne
    | _ => exact hchart
  active := by cases step?_eq_some_iff.mp h <;> rfl

/-- A pulled snapshot leads nowhere only if it is a profile that the chart cannot draw. -/
theorem step?_pulled_eq_none_iff : session.step? (.pulled s) = none ↔
    ∃ series, s = .exposure series ∧ session.chart.draw series = .overflow := by
  cases s with
  | portfolio | risk => simp [step?]
  | exposure series =>
    cases hdraw : session.chart.draw series <;> simp [step?, takeExposure?, write, hdraw]

end Session

namespace Exchange

open Pull (toOption_eq_some_iff)

variable {exchange : Exchange} {source : Source} {kind : Kind} {outcome : PullOutcome}

/-- A single fetch delivers its result, if there is one, and nothing else. -/
theorem settle?_fetch : exchange.settle? source [kind] [] =
    (exchange.session.run?
      ((source.reply kind (exchange.asked.count kind)).result.toList.map .pulled)).map
        fun r => ⟨[], [kind], r.events, ⟨r.session, exchange.asked ++ [kind]⟩⟩ := by
  simp only [settle?, Session.run?_nil, Option.bind_eq_bind, Option.bind_some, Reaction.idle,
    List.append_nil, Source.results]
  cases exchange.session.run?
    ((source.reply kind (exchange.asked.count kind)).result.toList.map .pulled) <;> rfl

/-- **A pull is all or nothing and stays within its kind.** A fetch of a kind is answered by the
outcome of one request.

It succeeds with a snapshot exactly if there was a response, of a success status, whose text holds
the snapshot, and then the snapshot is of that kind. It fails for the network without a response and
at any other status, whatever the body. At a success it fails to decode a text that holds no
snapshot of the kind, and if the body was not received it fails as the client says.

A snapshot is taken by the session, unless it is a profile that the chart cannot draw: then there is
no next session. After a failure everything is as before, and nothing is told. -/
theorem settle?_pull (base : String)
    (hreply : (source.reply kind (exchange.asked.count kind)).result =
      (Pull.snapshot base kind outcome).toOption) :
    (∀ s, Pull.snapshot base kind outcome = .ok s ↔ Pull.Brings kind outcome s) ∧
    (∀ s, Pull.Brings kind outcome s → s.kind = kind) ∧
    (Pull.IsRefused outcome → ∃ d, Pull.snapshot base kind outcome = .error (.network d)) ∧
    (∀ status text, outcome = .response status (.ok text) → 200 ≤ status → status ≤ 299 →
      (∀ s, ¬ Pull.Holds text kind s) →
        ∃ d, Pull.snapshot base kind outcome = .error (.decode d)) ∧
    (∀ status fault, outcome = .response status (.error fault) → 200 ≤ status → status ≤ 299 →
      Pull.snapshot base kind outcome =
        .error (if fault.isDecode then .decode fault.detail else .network fault.detail)) ∧
    (∀ s, Pull.snapshot base kind outcome = .ok s →
      (exchange.settle? source [kind] [] = none ↔
        ∃ series, s = .exposure series ∧ exchange.session.chart.draw series = .overflow) ∧
      ∀ settlement, exchange.settle? source [kind] [] = some settlement →
        exchange.session.HasTaken s settlement.exchange.session) ∧
    (∀ failure, Pull.snapshot base kind outcome = .error failure →
      exchange.settle? source [kind] [] =
        some ⟨[], [kind], [], ⟨exchange.session, exchange.asked ++ [kind]⟩⟩) := by
  have hfetch := @settle?_fetch exchange source kind
  rw [hreply] at hfetch
  refine ⟨fun s => Pull.snapshot_eq_ok_iff, fun s h => h.kind_eq,
    Pull.snapshot_of_isRefused base kind, ?undecoded, ?unreceived, fun s hok => ?taken,
    fun failure herror => ?kept⟩
  case undecoded =>
    rintro status text rfl hlow hhigh hnone
    exact Pull.snapshot_of_not_holds base ⟨hlow, hhigh⟩ hnone
  case unreceived =>
    rintro status fault rfl hlow hhigh
    exact Pull.snapshot_of_bodyFault base kind fault ⟨hlow, hhigh⟩
  case taken =>
    rw [hok] at hfetch
    change _ = (exchange.session.run? [.pulled s]).map _ at hfetch
    rw [Session.run?_singleton] at hfetch
    rw [hfetch, Option.map_eq_none_iff, Session.step?_pulled_eq_none_iff]
    refine ⟨Iff.rfl, fun settlement h => ?_⟩
    obtain ⟨r, hstep, rfl⟩ := Option.map_eq_some_iff.mp h
    exact Session.hasTaken_of_step? hstep
  case kept =>
    rw [herror] at hfetch
    exact hfetch

/-- The answer of a backend whose forward exposure has one point with the given figure. -/
def onePointAnswer (pfe : String) : PullOutcome :=
  .response 200 <| .ok <| "\x7b\"time_series\":[\x7b\"time\":0,\"pfe\":" ++ pfe ++
    ",\"ee\":0,\"epe\":0,\"ene\":0\x7d]\x7d"

/-- The profile in it. -/
def onePointSnapshot (pfe : Binary64) : Snapshot := .exposure (.onePoint pfe .zero .zero .zero)

/-- A backend that answers the first fetch of forward exposure with a profile. -/
def exposing (s : Snapshot) : Source := ⟨[], [], [⟨0, some s⟩]⟩

/-- A new session takes the profile of one point. -/
theorem settle?_pull_onePoint :
    ((exposing (onePointSnapshot .one)).reply .exposure 0).result =
      (Pull.snapshot "http://localhost/api" .exposure (onePointAnswer "1")).toOption ∧
    ∃ settlement, (⟨.initial, []⟩ : Exchange).settle? (exposing (onePointSnapshot .one))
        [.exposure] [] = some settlement ∧
      Session.initial.HasTaken (onePointSnapshot .one) settlement.exchange.session := by
  have hanswer : (Pull.snapshot "http://localhost/api" .exposure (onePointAnswer "1")).toOption =
      some (onePointSnapshot .one) := by decide +kernel
  have hdrawn : ((⟨.initial, []⟩ : Exchange).settle? (exposing (onePointSnapshot .one))
      [.exposure] []).isSome = true := by decide +kernel
  obtain ⟨settlement, hsettlement⟩ := Option.isSome_iff_exists.mp hdrawn
  obtain ⟨-, -, -, -, -, htaken, -⟩ := @settle?_pull ⟨.initial, []⟩
    (exposing (onePointSnapshot .one)) .exposure (onePointAnswer "1") "http://localhost/api"
    hanswer.symm
  exact ⟨hanswer.symm, settlement, hsettlement,
    (htaken _ (toOption_eq_some_iff.mp hanswer)).2 settlement hsettlement⟩

/-- A profile whose one figure is the least positive double beside zeros is accepted, and leaves no
session that could have taken it. -/
theorem settle?_pull_leastSpread :
    Pull.snapshot "http://localhost/api" .exposure (onePointAnswer "5e-324") =
      .ok (onePointSnapshot (.finite false ⟨1, by decide⟩)) ∧
    (⟨.initial, []⟩ : Exchange).settle?
      (exposing (onePointSnapshot (.finite false ⟨1, by decide⟩))) [.exposure] [] = none :=
  ⟨toOption_eq_some_iff.mp (by decide +kernel), by decide +kernel⟩

end Exchange

end RiskBoard
