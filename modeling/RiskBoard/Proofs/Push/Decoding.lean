import RiskBoard.Proofs.Session.LastWriter

/-!
# What a decoded frame says

A frame is decoded in two readings, of the frame and then of its data, and the type chooses the
second. `PushMessage.Decodes` lists the three ways in which this can succeed, and
`PushMessage.ofFrame?_eq_ok_iff` says that there is no other. A decoded push about valuation or
about exposure carries nothing of the other group and never the stated sum of adjustments
(`PushMessage.figure_totalXva_of_ofText?`).
-/

namespace RiskBoard

namespace PushMessage

/-- The ways in which a frame becomes a message. -/
inductive Decodes (frame : Frame) : PushMessage → Prop
  | connected (h : frame.type = some "connected") : Decodes frame (.connected frame.message)
  | risk (node : Json.Node) (push : ValuationPush) (htype : frame.type = some "risk")
    (hdata : frame.data = some node) (hread : ValuationPush.read .kept node = .ok push) :
    Decodes frame (.risk push.toPatch)
  | exposure (node : Json.Node) (push : ExposurePush) (htype : frame.type = some "exposure")
    (hdata : frame.data = some node) (hread : ExposurePush.read .kept node = .ok push) :
    Decodes frame (.exposure push)

variable {text type : String} {frame : Frame} {message : PushMessage} {f : Figure}

/-- The data has to be there and to be read. -/
theorem ofData?_eq_ok_iff {α : Type} {read : Json.Reader α} {data : Option Json.Node} {value : α} :
    ofData? type read data = .ok value ↔
      ∃ node, data = some node ∧ read .kept node = .ok value := by
  cases data with
  | none => simp [ofData?]
  | some node => cases h : read .kept node <;> simp [ofData?, h]

private theorem map_eq_ok_iff {α β : Type} {result : Except FrameFault α} {g : α → β} {b : β} :
    result.map g = .ok b ↔ ∃ a, result = .ok a ∧ g a = b := by
  cases result <;> simp [Except.map]

/-- A frame is decoded as its type says. -/
theorem ofFrame?_eq_ok_iff : ofFrame? frame = .ok message ↔ Decodes frame message := by
  constructor
  · intro h
    cases htype : frame.type with
    | none => simp [ofFrame?, htype] at h
    | some type =>
      simp only [ofFrame?, htype] at h
      split_ifs at h with hconnected hrisk hexposure
      · cases h
        exact .connected (hconnected ▸ htype)
      · obtain ⟨push, hdata, rfl⟩ := map_eq_ok_iff.mp h
        obtain ⟨node, hnode, hread⟩ := ofData?_eq_ok_iff.mp hdata
        exact .risk node push (hrisk ▸ htype) hnode hread
      · obtain ⟨push, hdata, rfl⟩ := map_eq_ok_iff.mp h
        obtain ⟨node, hnode, hread⟩ := ofData?_eq_ok_iff.mp hdata
        exact .exposure node push (hexposure ▸ htype) hnode hread
  · rintro (h | ⟨node, push, htype, hdata, hread⟩ | ⟨node, push, htype, hdata, hread⟩)
    · simp [ofFrame?, h]
    · simp [ofFrame?, htype, map_eq_ok_iff, ofData?_eq_ok_iff, hdata, hread]
    · simp [ofFrame?, htype, map_eq_ok_iff, ofData?_eq_ok_iff, hdata, hread]

/-- A text is decoded if it is a frame that is. -/
theorem ofText?_eq_ok_iff : ofText? text = .ok message ↔
    ∃ frame, Json.readText Frame.read text = .ok frame ∧ Decodes frame message := by
  simp only [← ofFrame?_eq_ok_iff, ofText?]
  cases Json.readText Frame.read text <;> simp

/-- Decoding a given text, by evaluation. -/
theorem ofText?_eq_ok_of_toOption (h : (ofText? text).toOption = some message) :
    ofText? text = .ok message := by
  cases hresult : ofText? text with
  | error fault => simp [hresult, Except.toOption] at h
  | ok decoded => simpa [hresult, Except.toOption] using h

/-- A frame of either type pushes nothing of the stated sum of adjustments. -/
theorem Decodes.figure_totalXva (h : Decodes frame message) : message.figure .totalXva = none := by
  cases h with
  | connected => rfl
  | risk node push =>
    have hnot : Figure.totalXva ∉ Figure.valuation := by decide
    exact push.figure_toPatch_of_not_mem hnot
  | exposure => rfl

/-- No frame carries the total adjustment. -/
theorem figure_totalXva_of_ofText? (h : ofText? text = .ok message) :
    message.figure .totalXva = none := by
  obtain ⟨frame, -, hd⟩ := ofText?_eq_ok_iff.mp h
  exact hd.figure_totalXva

end PushMessage

end RiskBoard
