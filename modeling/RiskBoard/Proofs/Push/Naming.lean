import RiskBoard.Proofs.Json.Kept
import RiskBoard.Proofs.Push.Decoding

/-!
# Which figures a frame can set

A frame sets a figure only if it gives it: its type is the one whose frames carry the figure, and
its data gives the figure with a number. Like every record, a frame and its data may be objects,
which name what they give, or arrays, which give what stands in its place, so a figure can be set
without being named. What is neither named nor in its place stays what it was, in the push and in
the risk snapshot into which it is merged.
-/

namespace RiskBoard

open Json (Node RecordField Shape)

/-! ### The fields of a frame and of its data -/

namespace Frame

variable {node : Node} {frame : Frame} {type : String} {data : Node}

/-- The names of the fields of a frame. -/
def names : List String := shape.fields.map (·.name)

/-- Only the field of that name sets the type of a frame. -/
theorem sets_type : shape.Sets "type" (·.type) (Json.nullable Json.text) where
  nodup := by decide
  mem := by decide
  acts := by
    simp only [shape, List.forall_mem_cons]
    exact ⟨.make_own fun _ _ => rfl, .make_other (by decide) fun _ _ => rfl,
      .make_other (by decide) fun _ _ => rfl, List.forall_mem_nil _⟩

theorem sets_data : shape.Sets "data" (·.data) (Json.nullable (Json.keep dataDepth)) where
  nodup := by decide
  mem := by decide
  acts := by
    simp only [shape, List.forall_mem_cons]
    exact ⟨.make_other (by decide) fun _ _ => rfl,
      .make_other (by decide) fun _ _ => rfl, .make_own fun _ _ => rfl,
      List.forall_mem_nil _⟩

/-- A frame that is read is a well-formed value. -/
theorem isSound_of_read {source : Json.Source} (h : read source node = .ok frame) :
    node.isSound = true := by
  refine Shape.isSound_of_read ?_ h
  have htext := Json.readsSound_text.nullable
  simp only [Shape.ReadSound, shape, List.forall_mem_cons]
  exact ⟨htext.make, htext.make, Json.readsSound_keep.nullable.make, List.forall_mem_nil _⟩

/-- The type of a frame stands in it, once. -/
theorem type_given {source : Json.Source} (h : read source node = .ok frame)
    (htype : frame.type = some type) :
    node.GivesOnce names "type" (.text (some type)) := by
  obtain hblank | ⟨value, hgives, hread⟩ := sets_type.read_given h
  · rw [htype] at hblank
    cases hblank
  · rw [htype] at hread
    exact Json.text_eq_ok (Json.nullable_eq_ok_some hread) ▸ hgives

/-- So does its data, and what is kept of it is what stood there. -/
theorem data_given {source : Json.Source} (h : read source node = .ok frame)
    (hdata : frame.data = some data) :
    ∃ raw, node.GivesOnce names "data" raw ∧ raw.keep? dataDepth = some data := by
  obtain hblank | ⟨value, hgives, hread⟩ := sets_data.read_given h
  · rw [hdata] at hblank
    cases hblank
  · rw [hdata] at hread
    exact ⟨value, hgives, Json.keep_eq_ok (Json.nullable_eq_ok_some hread)⟩

end Frame

/-- Different figures have different names. -/
theorem Figure.name_injective : Function.Injective Figure.name := by
  intro f g h
  cases f <;> cases g <;> first | rfl | exact absurd h (by decide)

/-- A field for a figure bears on a view of a record by figures as setting that figure does. -/
theorem Figure.acts_field {σ : Type} {view : σ → Figure → Option Binary64} {f g : Figure}
    {set : Option Binary64 → σ → σ}
    (hset : ∀ value record, view (set value record) f = if f = g then value else view record f) :
    (g.field set).Acts f.name (view · f) (Json.nullable Json.real) := by
  by_cases h : f = g
  · subst h
    exact .make_own fun value record => by simpa using hset value record
  · have hname : g.name ≠ f.name := fun hname => h (Figure.name_injective hname).symm
    exact .make_other hname fun value record => by simpa [h] using hset value record

/-- Only the field of its name sets a figure of a valuation. -/
theorem ValuationPush.sets {f : Figure} (hf : f ∈ Figure.valuation) :
    shape.Sets f.name (·.toPatch.figure f) (Json.nullable Json.real) where
  nodup := by decide
  mem := List.mem_map_of_mem hf
  acts := by
    simp only [shape, List.forall_mem_cons]
    exact ⟨Figure.acts_field fun _ _ => by cases f <;> rfl,
      Figure.acts_field fun _ _ => by cases f <;> rfl,
      Figure.acts_field fun _ _ => by cases f <;> rfl,
      Figure.acts_field fun _ _ => by cases f <;> rfl, List.forall_mem_nil _⟩

theorem ExposurePush.sets {f : Figure} (hf : f ∈ Figure.exposure) :
    shape.Sets f.name (·.toPatch.figure f) (Json.nullable Json.real) where
  nodup := by decide
  mem := List.mem_map_of_mem hf
  acts := by
    simp only [shape, List.forall_mem_cons]
    exact ⟨Figure.acts_field fun _ _ => by cases f <;> rfl,
      Figure.acts_field fun _ _ => by cases f <;> rfl,
      Figure.acts_field fun _ _ => by cases f <;> rfl, List.forall_mem_nil _⟩

/-- A number that a record reads from what was kept of a value is given by the value itself. -/
theorem Json.Shape.Sets.number_given {σ : Type} {shape : Shape σ} {name : String}
    {get : σ → Option Binary64} {blank result : σ} {depth : Nat} {node kept : Node} {v : Binary64}
    (hsets : shape.Sets name get (nullable real)) (hblank : get blank = none)
    (hkeep : node.keep? depth = some kept) (hread : shape.read blank .kept kept = .ok result)
    (hv : get result = some v) :
    ∃ n, node.Gives (shape.fields.map (·.name)) name (.number (some n)) ∧ n.toReal = v := by
  obtain hsame | ⟨value, hgives, hvalue⟩ := hsets.read_given hread
  · rw [hv, hblank] at hsame
    cases hsame
  · rw [hv] at hvalue
    obtain ⟨n, rfl, hn⟩ := real_eq_ok (nullable_eq_ok_some hvalue)
    obtain ⟨raw, hraw, hkeepRaw⟩ := Node.gives_of_keep? hkeep hgives
    exact ⟨n, Node.eq_number_of_keep? hkeepRaw ▸ hraw, hn⟩

/-! ### What a frame gives -/

namespace PushMessage

/-- The type of the frames that push a message. -/
def type : PushMessage → String
  | .connected _ => "connected"
  | .risk _ => "risk"
  | .exposure _ => "exposure"

/-- The figures that frames of a message's type may give, in the order of their places. -/
def figures : PushMessage → List Figure
  | .connected _ => []
  | .risk _ => Figure.valuation
  | .exposure _ => Figure.exposure

/-- A value is a frame of a message's type, the only type and the only data in it, and its data
gives a figure with a number. -/
def GivenBy (root : Node) (message : PushMessage) (f : Figure) (n : Json.Number) : Prop :=
  root.GivesOnce Frame.names "type" (.text (some message.type)) ∧
    ∃ data, root.GivesOnce Frame.names "data" data ∧
      data.Gives (message.figures.map Figure.name) f.name (.number (some n))

variable {frame : Frame} {message : PushMessage} {root : Node} {f : Figure} {v : Binary64}

/-- A message has the type of its frame. -/
theorem Decodes.type_eq (h : Decodes frame message) : frame.type = some message.type := by
  cases h with
  | connected h => exact h
  | risk _ _ htype => exact htype
  | exposure _ _ htype => exact htype

/-- A figure of a message is given by the frame, as the number that is written there. -/
theorem Decodes.given (h : Decodes frame message) (hread : Frame.read .text root = .ok frame)
    (hv : message.figure f = some v) : ∃ n, GivenBy root message f n ∧ n.toReal = v := by
  have htype := Frame.type_given hread h.type_eq
  rw [← figure_patch] at hv
  cases h with
  | connected =>
    have hnone : Patch.empty.figure f = none := by cases f <;> rfl
    exact absurd (hnone.symm.trans hv) (by simp)
  | risk node push _ hdata hpush =>
    have hmem : f ∈ Figure.valuation := by
      by_contra hnot
      exact absurd ((push.figure_toPatch_of_not_mem hnot).symm.trans hv) (by simp)
    obtain ⟨raw, hraw, hkeep⟩ := Frame.data_given hread hdata
    obtain ⟨n, hn, hval⟩ :=
      (ValuationPush.sets hmem).number_given (by cases f <;> rfl) hkeep hpush hv
    exact ⟨n, ⟨htype, raw, hraw, hn⟩, hval⟩
  | exposure node push _ hdata hpush =>
    have hmem : f ∈ Figure.exposure := by
      by_contra hnot
      exact absurd ((push.figure_toPatch_of_not_mem hnot).symm.trans hv) (by simp)
    obtain ⟨raw, hraw, hkeep⟩ := Frame.data_given hread hdata
    obtain ⟨n, hn, hval⟩ :=
      (ExposurePush.sets hmem).number_given (by cases f <;> rfl) hkeep hpush hv
    exact ⟨n, ⟨htype, raw, hraw, hn⟩, hval⟩

/-- **A frame sets only the figures that it gives.** If a text pushes a message, then it is one
well-formed value, and every figure that the message carries is the double of a number that the
value gives for that figure: the value is a frame of the message's type, and its data names the
figure or has a number in the figure's place. Merging the message changes no other figure of the
risk snapshot. -/
theorem figure_given {text : String} (h : ofText? text = .ok message) :
    ∃ root, Json.Document.ofText text = ⟨root, true⟩ ∧ root.isSound = true ∧
      (∀ f v, message.figure f = some v → ∃ n, GivenBy root message f n ∧ n.toReal = v) ∧
      ∀ (store : Store) f,
        (store.merged message.patch).figure f ≠ (store.risk.getD .zero).figure f →
          ∃ n, GivenBy root message f n ∧
            (store.merged message.patch).figure f = some n.toReal := by
  obtain ⟨frame, htext, hdecodes⟩ := ofText?_eq_ok_iff.mp h
  obtain ⟨root, hroot, hread⟩ := Json.readText_eq_ok htext
  have hgiven : ∀ f v, message.figure f = some v →
      ∃ n, GivenBy root message f n ∧ n.toReal = v := fun f v hv => hdecodes.given hread hv
  refine ⟨root, hroot, Frame.isSound_of_read hread, hgiven, fun store f hchanged => ?_⟩
  rw [Store.merged, Risk.figure_merge, figure_patch] at hchanged ⊢
  cases hv : message.figure f with
  | none => exact absurd (by rw [hv]; rfl) hchanged
  | some v =>
    obtain ⟨n, hn, hval⟩ := hgiven f v hv
    exact ⟨n, hn, by rw [hval]; rfl⟩

/-- A frame that is an array and so are its data: nothing in it has a name. -/
def frameWithoutNames : String := "[\"risk\",null,[1]]"

/-- What it pushes. -/
def pushWithoutNames : PushMessage := .risk { Patch.empty with totalPv := some .one }

/-- A figure is set although nothing has a name, and the text is no object. -/
theorem figure_without_names : ofText? frameWithoutNames = .ok pushWithoutNames ∧
    pushWithoutNames.figure .totalPv = some .one ∧
    ∀ members closed, (Json.Document.ofText frameWithoutNames).root ≠ .object members closed := by
  refine ⟨ofText?_eq_ok_of_toOption (by decide +kernel), rfl, fun members closed hobject => ?_⟩
  -- an object cannot be read as a list
  have hlist : (Json.list (Json.keep 128) .text
      (Json.Document.ofText frameWithoutNames).root).toOption.isSome = true := by decide +kernel
  rw [hobject] at hlist
  cases hlist

/-- A frame that gives one figure twice, one as null and one that its type does not have. -/
def frameWithNames : String :=
  "\x7b\"data\":\x7b\"cva\":2,\"dva\":null,\"ee\":3,\"cva\":1\x7d,\"type\":\"risk\"\x7d"

/-- What it pushes. -/
def pushWithNames : PushMessage := .risk { Patch.empty with cva := some .one }

/-- The last of two values for a figure is the one that counts, also for the merged snapshot. -/
theorem figure_given_frameWithNames : ofText? frameWithNames = .ok pushWithNames ∧
    ∃ root n, Json.Document.ofText frameWithNames = ⟨root, true⟩ ∧
      GivenBy root pushWithNames .cva n ∧ n.toReal = .one ∧
      (Store.empty.merged pushWithNames.patch).figure .cva = some .one := by
  have htext : ofText? frameWithNames = .ok pushWithNames :=
    ofText?_eq_ok_of_toOption (by decide +kernel)
  obtain ⟨root, hroot, -, hcarried, -⟩ := figure_given htext
  obtain ⟨n, hn, hval⟩ := hcarried .cva .one rfl
  exact ⟨htext, root, n, hroot, hn, hval, rfl⟩

end PushMessage

end RiskBoard
