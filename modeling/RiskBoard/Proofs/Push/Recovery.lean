import RiskBoard.Proofs.Json.Accepted
import RiskBoard.Proofs.Json.Grammar
import RiskBoard.Proofs.Push.Naming

/-!
# What a frame carries is recovered

Of a frame only its type, its data and what the data carries under the names of the type's figures
matter (`PushMessage.IsFrameOf`). Whatever else stands in the frame or in its data, in whatever
order and with whatever blanks, the text is decoded to the push with just the carried figures
(`PushMessage.ofText?_of_isFrameOf`). That a decoded push carries only what its frame gives is the
other direction (`PushMessage.figure_given`).
-/

namespace RiskBoard

open Json (Node RecordField Shape)

/-- The fields of a valuation are those of its figures. -/
theorem ValuationPush.exists_field :
    ∀ field ∈ shape.fields, ∃ f ∈ Figure.valuation, ∃ set, field = f.field set := by
  simp only [shape, List.forall_mem_cons]
  exact ⟨⟨.totalPv, by decide, _, rfl⟩, ⟨.cva, by decide, _, rfl⟩, ⟨.dva, by decide, _, rfl⟩,
    ⟨.fva, by decide, _, rfl⟩, List.forall_mem_nil _⟩

theorem ExposurePush.exists_field :
    ∀ field ∈ shape.fields, ∃ f ∈ Figure.exposure, ∃ set, field = f.field set := by
  simp only [shape, List.forall_mem_cons]
  exact ⟨⟨.ee, by decide, _, rfl⟩, ⟨.epe, by decide, _, rfl⟩, ⟨.pfe, by decide, _, rfl⟩,
    List.forall_mem_nil _⟩

namespace PushMessage

/-- The members of a frame that pushes a message: its type stands in it once, a message of any
wording at most once, and its data once. The data is storable, and under the names of the figures
that frames of the type may give it carries those of the message. -/
structure IsFrameOf (message : PushMessage) (members : List (Option String × Node)) : Prop where
  named : ∀ member ∈ members, member.1 ≠ none
  type : (Node.object members true).GivesOnce Frame.names "type" (.text (some message.type))
  messages : (members.map (·.1)).count (some "message") ≤ 1
  wording : ∀ value, (some "message", value) ∈ members →
    value = .null ∨ ∃ s, value = .text (some s)
  data : ∃ data, (Node.object members true).GivesOnce Frame.names "data" (.object data true) ∧
    (Node.object data true).Storable Frame.dataDepth ∧
    ∀ f ∈ message.figures,
      (Node.object data true).Carries (message.figures.map Figure.name) f.name (message.figure f)

variable {message : PushMessage} {members : List (Option String × Node)} {text : String}

/-- An object that can be kept is read as data. -/
theorem nullable_keep_object {depth : Nat} {source : Json.Source} {kept : Node}
    (h : (Node.object members true).keep? depth = some kept) :
    Json.nullable (Json.keep depth) source (.object members true) = .ok (some kept) := by
  change (Json.keep depth source (.object members true)).map some = _
  rw [Json.keep, h]
  rfl

/-- The fields of a frame accept the members of a frame. -/
theorem IsFrameOf.accepts (h : IsFrameOf message members)
    (hsound : Node.areSoundMembers members = true) : Frame.shape.Accepts .text members := by
  obtain ⟨data, hdata, hstorable, -⟩ := h.data
  obtain ⟨kept, hkept, -⟩ := hstorable.exists_keep
  refine ⟨h.named, hsound, ?_, ?_⟩
  · simp only [Frame.shape, List.forall_mem_cons]
    exact ⟨h.type.count_le, h.messages, hdata.count_le, List.forall_mem_nil _⟩
  · simp only [Frame.shape, List.forall_mem_cons]
    refine ⟨fun node hmem => ?_, fun node hmem => ?_, fun node hmem => ?_, List.forall_mem_nil _⟩
    · obtain rfl := h.type.eq_of_mem hmem
      exact RecordField.exists_read_make rfl
    · obtain rfl | ⟨s, rfl⟩ := h.wording node hmem
      · exact RecordField.exists_read_make rfl
      · exact RecordField.exists_read_make rfl
    · obtain rfl := hdata.eq_of_mem hmem
      exact RecordField.exists_read_make (nullable_keep_object hkept)

/-- A frame is read with its type and with what is kept of its data. -/
theorem IsFrameOf.exists_frame (h : IsFrameOf message members)
    (hsound : Node.areSoundMembers members = true) :
    ∃ frame, Frame.read .text (.object members true) = .ok frame ∧
      frame.type = some message.type ∧
      ∀ data kept, (Node.object members true).GivesOnce Frame.names "data" (.object data true) →
        (Node.object data true).keep? Frame.dataDepth = some kept → frame.data = some kept := by
  have hpresence : ∀ field ∈ Frame.shape.fields, field.presence ≠ .required := by
    simp only [Frame.shape, List.forall_mem_cons]
    exact ⟨by decide, by decide, by decide, List.forall_mem_nil _⟩
  obtain ⟨frame, hframe⟩ := Shape.exists_read hpresence (h.accepts hsound) ⟨none, none, none⟩
  refine ⟨frame, hframe, ?_, fun data kept hdata hkept => ?_⟩
  · exact (Except.ok.inj ((Frame.sets_type.readMembers_lookup hframe).2 _ h.type.lookup)).symm
  · have hread := (Frame.sets_data.readMembers_lookup hframe).2 _ hdata.lookup
    rw [nullable_keep_object hkept] at hread
    exact (Except.ok.inj hread).symm

/-- Fields for figures hold doubles or nothing. -/
theorem isFigureField_field {σ : Type} (f : Figure) (set : Option Binary64 → σ → σ) :
    Shape.IsFigureField (f.field set) := by
  refine ⟨by rintro ⟨⟩, fun source node record value h => ?_⟩
  exact RecordField.exists_read_make h record

/-- Data that carries the figures of a message is read as a record of these figures. -/
theorem IsFrameOf.exists_push {σ : Type} {shape : Shape σ} {blank : σ} {toPatch : σ → Patch}
    (h : IsFrameOf message members)
    (hfields : ∀ field ∈ shape.fields, ∃ f ∈ message.figures, ∃ set, field = f.field set)
    (hsets : ∀ f ∈ message.figures,
      shape.Sets f.name (fun record => (toPatch record).figure f) (Json.nullable Json.real))
    (hblank : ∀ f, (toPatch blank).figure f = none)
    (hother : ∀ f ∉ message.figures,
      message.figure f = none ∧ ∀ record, (toPatch record).figure f = none) :
    ∃ data kept result,
      (Node.object members true).GivesOnce Frame.names "data" (.object data true) ∧
      (Node.object data true).keep? Frame.dataDepth = some kept ∧
      shape.read blank .kept kept = .ok result ∧ toPatch result = message.patch := by
  obtain ⟨data, hdata, hstorable, hcarries⟩ := h.data
  have hfigureFields : ∀ field ∈ shape.fields, Shape.IsFigureField field := by
    intro field hfield
    obtain ⟨f, -, set, rfl⟩ := hfields field hfield
    exact isFigureField_field f set
  have hnames : ∀ field ∈ shape.fields, ∃ v,
      (Node.object data true).Carries (message.figures.map Figure.name) field.name v := by
    intro field hfield
    obtain ⟨f, hf, set, rfl⟩ := hfields field hfield
    exact ⟨_, hcarries f hf⟩
  obtain ⟨kept, result, hkept, hread, hfigures⟩ :=
    Shape.exists_read_kept hfigureFields hstorable hnames blank
  refine ⟨data, kept, result, hdata, hkept, hread, Patch.ext_figure fun f => ?_⟩
  rw [figure_patch]
  by_cases hf : f ∈ message.figures
  · exact hfigures f.name _ _ (hsets f hf) (hblank f) (hcarries f hf)
  · rw [(hother f hf).1, (hother f hf).2]

/-- **Frames are recovered.** A text of an object that is a frame of a push about valuation or about
exposure is decoded to that push, which carries no other figures than those of its type. -/
theorem ofText?_of_isFrameOf (hmessage : (∃ push : ValuationPush, message = .risk push.toPatch) ∨
      ∃ push : ExposurePush, message = .exposure push)
    (htext : Json.IsTextOf text (.object members true)) (h : IsFrameOf message members) :
    ofText? text = .ok message ∧ ∀ f ∉ message.figures, message.figure f = none := by
  have hsound : Node.areSoundMembers members = true := by
    obtain ⟨cs, rest, -, hvalue, -⟩ := htext
    have hsound := hvalue.isSound
    rw [Node.isSound, Bool.and_true] at hsound
    exact hsound
  obtain ⟨frame, hframe, htype, hdata⟩ := h.exists_frame hsound
  have hread : Json.readText Frame.read text = .ok frame := by
    rw [Json.readText, Json.ofText_of_isTextOf htext]
    simp only [hframe, if_true]
  rw [ofText?_eq_ok_iff]
  obtain ⟨push, rfl⟩ | ⟨push, rfl⟩ := hmessage
  · have hother : ∀ (record : ValuationPush), ∀ f ∉ Figure.valuation,
        record.toPatch.figure f = none := fun record f hf => record.figure_toPatch_of_not_mem hf
    have hblank : ∀ f, ValuationPush.empty.toPatch.figure f = none := fun f => by cases f <;> rfl
    obtain ⟨data, kept, result, hgives, hkept, hresult, hpatch⟩ :=
      h.exists_push ValuationPush.exists_field (fun f hf => ValuationPush.sets hf) hblank
        fun f hf => ⟨hother push f hf, fun record => hother record f hf⟩
    have hpatch : result.toPatch = push.toPatch := hpatch
    refine ⟨⟨frame, hread, ?_⟩, hother push⟩
    exact hpatch ▸ .risk kept result htype (hdata data kept hgives hkept) hresult
  · have hother : ∀ (record : ExposurePush), ∀ f ∉ Figure.exposure,
        record.toPatch.figure f = none := fun record f hf => record.figure_toPatch_of_not_mem hf
    have hblank : ∀ f, ExposurePush.empty.toPatch.figure f = none := fun f => by cases f <;> rfl
    have hfigure : ∀ f ∉ Figure.exposure, (exposure push).figure f = none := fun f hf =>
      (figure_patch (.exposure push) f).symm.trans (hother push f hf)
    obtain ⟨data, kept, result, hgives, hkept, hresult, hpatch⟩ :=
      h.exists_push ExposurePush.exists_field (fun f hf => ExposurePush.sets hf) hblank
        fun f hf => ⟨hfigure f hf, fun record => hother record f hf⟩
    obtain rfl : result = push := congrArg ExposurePush.ofPatch hpatch
    exact ⟨⟨frame, hread, .exposure kept result htype (hdata data kept hgives hkept) hresult⟩,
      hfigure⟩

/-- A frame whose type comes last, with a key that no frame has, and with data that holds a figure
of the other group, which is no number, and a figure that is null. -/
def scatteredFrame : String :=
  "\x7b\"x\":\x7b\x7d,\"data\":\x7b\"ee\":[],\"cva\":1,\"dva\":null\x7d, \"type\":\"risk\"\x7d"

/-- Its data. -/
def scatteredData : List (Option String × Node) :=
  [(some "ee", .array [] true), (some "cva", .number (some (.natural 1))), (some "dva", .null)]

/-- Its members. -/
def scatteredMembers : List (Option String × Node) :=
  [(some "x", .object [] true), (some "data", .object scatteredData true),
    (some "type", .text (some "risk"))]

/-- What it pushes. -/
def scatteredPush : ValuationPush := { ValuationPush.empty with cva := some (.ofNat 1) }

/-- The text is that of an object with these members. -/
theorem isTextOf_scatteredFrame :
    Json.IsTextOf scatteredFrame (.object scatteredMembers true) := by
  -- a member without blanks, whose name needs no escape
  have hmember : ∀ (name : List Char) {cs rest : List Char} {value : Node},
      (∀ c ∈ name, c ≠ '\x22' ∧ c ≠ '\\' ∧ 0x20 ≤ c.toNat) → Json.ValueText value cs rest →
        Json.MemberText (some (.ofList name), value) ('\x22' :: (name ++ '\x22' :: ':' :: cs))
          rest :=
    fun name _ _ _ hname hvalue =>
      .intro .none (Json.stringText_plain name hname) .none .none hvalue .none
  have hone : Json.NumeralText ⟨false, ['1'], [], none⟩ ['1'] :=
    .plain (.intro (by simp) (by simp) (by simp) .none .none)
  have hcva : ∀ rest, Json.ValueText (.number (some (.natural 1))) ('1' :: rest) rest :=
    fun rest => .number hone
  have hdata : ∀ rest, Json.ValueText (.object scatteredData true)
      ('\x7b' :: '\x22' :: (['e', 'e'] ++ '\x22' :: ':' :: '[' :: ']' :: ',' ::
        '\x22' :: (['c', 'v', 'a'] ++ '\x22' :: ':' :: '1' :: ',' ::
          '\x22' :: (['d', 'v', 'a'] ++ '\x22' :: ':' :: 'n' :: 'u' :: 'l' :: 'l' :: '\x7d' ::
            rest)))) rest := by
    intro rest
    refine .object (.more (hmember ['e', 'e'] (by simp) (.emptyArray .none)) ?_)
    refine .more (hmember ['c', 'v', 'a'] (by simp) (hcva _)) ?_
    exact .last (hmember ['d', 'v', 'a'] (by simp) .null)
  have hchars : scatteredFrame.toList =
      '\x7b' :: '\x22' :: (['x'] ++ '\x22' :: ':' :: '\x7b' :: '\x7d' :: ',' ::
        '\x22' :: (['d', 'a', 't', 'a'] ++ '\x22' :: ':' ::
          '\x7b' :: '\x22' :: (['e', 'e'] ++ '\x22' :: ':' :: '[' :: ']' :: ',' ::
            '\x22' :: (['c', 'v', 'a'] ++ '\x22' :: ':' :: '1' :: ',' ::
              '\x22' :: (['d', 'v', 'a'] ++ '\x22' :: ':' :: 'n' :: 'u' :: 'l' :: 'l' :: '\x7d' ::
                ',' :: ' ' :: '\x22' :: (['t', 'y', 'p', 'e'] ++ '\x22' :: ':' ::
                  '\x22' :: (['r', 'i', 's', 'k'] ++ '\x22' :: '\x7d' :: []))))))) := rfl
  refine ⟨_, [], .none, ?_, .none⟩
  rw [hchars]
  refine .object (.more (hmember ['x'] (by simp) (.emptyObject .none)) ?_)
  refine .more (hmember ['d', 'a', 't', 'a'] (by simp) (hdata _)) ?_
  -- there is a blank before the last name
  exact .last (.intro (.more (by simp) .none) (Json.stringText_plain ['t', 'y', 'p', 'e'] (by simp))
    .none .none (.text (Json.stringText_plain ['r', 'i', 's', 'k'] (by simp))) .none)

theorem isFrameOf_scatteredMembers :
    IsFrameOf (.risk scatteredPush.toPatch) scatteredMembers where
  named := by simp [scatteredMembers]
  type := .named [(some "x", .object [] true), (some "data", .object scatteredData true)] [] _
    (by simp)
  messages := by decide
  wording := by simp [scatteredMembers]
  data := by
    refine ⟨scatteredData, ?_, .object (by simp [scatteredData]) ?_, ?_⟩
    · exact .named [(some "x", .object [] true)] [(some "type", .text (some "risk"))] _ (by simp)
    · simp only [scatteredData, List.forall_mem_cons]
      exact ⟨.array (List.forall_mem_nil _), .number _, .null, List.forall_mem_nil _⟩
    · have hlast : ∀ {names : List String} {name : String} {value : Node},
          (Node.object scatteredData true).Gives names name value →
            scatteredData.reverse.lookup (some name) = some value := fun h => h.lookup_reverse
      simp only [figures, Figure.valuation, List.forall_mem_cons]
      refine ⟨.nothing fun _ h => ?_, .number (.natural 1) ?_, .nothing fun _ h => ?_,
        .nothing fun _ h => ?_, List.forall_mem_nil _⟩
      · cases hlast h
      · exact .named [(some "ee", .array [] true)] [(some "dva", .null)] _ (by decide)
      · exact (Option.some.inj (hlast h)).symm
      · cases hlast h

/-- It is decoded to the one figure that it carries. -/
theorem ofText?_of_isFrameOf_scattered :
    (∃ push : ValuationPush, PushMessage.risk scatteredPush.toPatch = .risk push.toPatch) ∧
      Json.IsTextOf scatteredFrame (.object scatteredMembers true) ∧
      IsFrameOf (.risk scatteredPush.toPatch) scatteredMembers ∧
      ofText? scatteredFrame = .ok (.risk scatteredPush.toPatch) :=
  ⟨⟨scatteredPush, rfl⟩, isTextOf_scatteredFrame, isFrameOf_scatteredMembers,
    (ofText?_of_isFrameOf (.inl ⟨scatteredPush, rfl⟩) isTextOf_scatteredFrame
      isFrameOf_scatteredMembers).1⟩

end PushMessage

end RiskBoard
