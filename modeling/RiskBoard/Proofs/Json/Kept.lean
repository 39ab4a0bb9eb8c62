import RiskBoard.Proofs.Json.Given

/-!
# What is kept of a value

A value that is kept is the value that was read, with the last member of each name in the place of
all members of that name. So what gives a field once among what is kept gives that field in the
value that was read (`Node.gives_of_keep?`), where the field's value is kept as well.

Only a well-formed value can be kept (`Node.isSound_of_keep?`), and a record that reads no value
that is not well-formed is well-formed as a whole (`Shape.isSound_of_read`).
-/

namespace RiskBoard.Json

variable {names : List String} {name : String} {depth : Nat}

namespace Node

/-! ### Members -/

private theorem lookup_cons_some (other : String) (node : Node)
    (rest : List (Option String × Node)) :
    ((some other, node) :: rest).lookup (some name) =
      if name = other then some node else rest.lookup (some name) := by
  rw [List.lookup_cons]
  by_cases h : name = other
  · simp [h]
  · simp [h, beq_false_of_ne h]

private theorem lookup_cons_none (node : Node) (rest : List (Option String × Node)) :
    ((none, node) :: rest).lookup (some name) = rest.lookup (some name) := rfl

/-- A name that is put is found with its new value, and the others as before. -/
theorem lookup_putMember (other : String) (node : Node) (kept : List (Option String × Node)) :
    (putMember other node kept).lookup (some name) =
      if name = other then some node else kept.lookup (some name) := by
  fun_induction putMember other node kept with
  | case1 => exact lookup_cons_some other node []
  | case2 third old rest hlt ih =>
    have hne : third ≠ other := fun heq => String.lt_irrefl _ (heq ▸ hlt)
    rw [lookup_cons_some, lookup_cons_some, ih]
    by_cases hname : name = other
    · simp [hname, hne.symm]
    · simp [hname]
  | case3 third old rest => exact lookup_cons_some other node _
  | case4 third old rest hnot hnotLt =>
    obtain rfl : third = other :=
      String.le_antisymm (String.not_lt.mp hnotLt) (String.not_lt.mp hnot)
    rw [lookup_cons_some, lookup_cons_some]
    by_cases hname : name = third <;> simp [hname]
  | case5 old rest ih => rw [lookup_cons_none, lookup_cons_none, ih]

/-- The members that are kept have the values of the last members of their names. -/
theorem lookup_keepMembers? {members acc kept : List (Option String × Node)}
    (h : keepMembers? depth members acc = some kept) :
    (∃ before raw after, members = before ++ (some name, raw) :: after ∧
      (∀ member ∈ after, member.1 ≠ some name) ∧
      raw.keep? depth = kept.lookup (some name)) ∨
    (∀ member ∈ members, member.1 ≠ some name) ∧
      kept.lookup (some name) = acc.lookup (some name) := by
  induction members generalizing acc with
  | nil =>
    cases h
    exact .inr ⟨fun _ hmem => absurd hmem List.not_mem_nil, rfl⟩
  | cons member rest ih =>
    obtain ⟨_ | other, node⟩ := member
    · cases h
    · obtain ⟨keptNode, hkeep, hrest⟩ := Option.bind_eq_some_iff.mp h
      obtain ⟨before, raw, after, rfl, hlast, hraw⟩ | ⟨hnone, hacc⟩ := ih hrest
      · exact .inl ⟨(some other, node) :: before, raw, after, rfl, hlast, hraw⟩
      · rw [lookup_putMember] at hacc
        by_cases hname : name = other
        · rw [if_pos hname] at hacc
          exact .inl ⟨[], node, rest, by rw [hname]; rfl, hnone, hkeep.trans hacc.symm⟩
        · rw [if_neg hname] at hacc
          refine .inr ⟨List.forall_mem_cons.mpr ⟨?_, hnone⟩, hacc⟩
          simpa using Ne.symm hname

/-! ### Items -/

/-- An item that is kept comes from the item in its place. -/
theorem keepItems?_split {nodes before after : List Node} {value : Node}
    (h : keepItems? depth nodes = some (before ++ value :: after)) :
    ∃ before' raw after', nodes = before' ++ raw :: after' ∧ before'.length = before.length ∧
      raw.keep? depth = some value := by
  induction before generalizing nodes with
  | nil =>
    cases nodes with
    | nil => cases h
    | cons node rest =>
      obtain ⟨keptNode, hkeep, hrest⟩ := Option.bind_eq_some_iff.mp h
      obtain ⟨keptRest, -, heq⟩ := Option.bind_eq_some_iff.mp hrest
      cases heq
      exact ⟨[], node, rest, rfl, rfl, hkeep⟩
  | cons first before ih =>
    cases nodes with
    | nil => cases h
    | cons node rest =>
      obtain ⟨keptNode, -, hrest⟩ := Option.bind_eq_some_iff.mp h
      obtain ⟨keptRest, hkeepRest, heq⟩ := Option.bind_eq_some_iff.mp hrest
      cases heq
      obtain ⟨before', raw, after', rfl, hlength, hraw⟩ := ih hkeepRest
      exact ⟨node :: before', raw, after', rfl, congrArg (· + 1) hlength, hraw⟩

/-! ### Values -/

/-- An array is kept if it is closed and all its items are. -/
theorem keep?_array_eq_some {items : List Node} {closed : Bool} {kept : Node}
    (h : (array items closed).keep? depth = some kept) :
    ∃ keptItems, keepItems? (depth - 1) items = some keptItems ∧ closed = true ∧
      kept = .array keptItems true := by
  rw [keep?] at h
  split at h
  · cases h
  · obtain ⟨keptItems, hitems, hclosed⟩ := Option.bind_eq_some_iff.mp h
    cases closed
    · cases hclosed
    · cases hclosed
      exact ⟨keptItems, hitems, rfl, rfl⟩

/-- An object is kept if it is closed and all its members are, by their names. -/
theorem keep?_object_eq_some {members : List (Option String × Node)} {closed : Bool} {kept : Node}
    (h : (object members closed).keep? depth = some kept) :
    ∃ keptMembers, keepMembers? (depth - 1) members [] = some keptMembers ∧ closed = true ∧
      kept = .object keptMembers true := by
  rw [keep?] at h
  split at h
  · cases h
  · obtain ⟨keptMembers, hmembers, hclosed⟩ := Option.bind_eq_some_iff.mp h
    cases closed
    · cases hclosed
    · cases hclosed
      exact ⟨keptMembers, hmembers, rfl, rfl⟩

/-- A number is kept as it is. -/
theorem eq_number_of_keep? {node : Node} {n : Number}
    (h : node.keep? depth = some (.number (some n))) : node = .number (some n) := by
  cases node with
  | broken | null | bool => cases h
  | number value => simpa [keep?] using h
  | text value => simp [keep?] at h
  | array items closed =>
    obtain ⟨keptItems, -, -, heq⟩ := keep?_array_eq_some h
    cases heq
  | object members closed =>
    obtain ⟨keptMembers, -, -, heq⟩ := keep?_object_eq_some h
    cases heq

/-- What gives a field once among what is kept of a value gives that field in the value itself. -/
theorem gives_of_keep? {node kept value : Node} (h : node.keep? depth = some kept)
    (hgives : kept.GivesOnce names name value) :
    ∃ raw, node.Gives names name raw ∧ raw.keep? (depth - 1) = some value := by
  cases node with
  | broken => cases h
  | null | bool =>
    cases h
    cases hgives
  | number value =>
    obtain ⟨n, -, rfl⟩ := Option.map_eq_some_iff.mp h
    cases hgives
  | text value =>
    obtain ⟨s, -, rfl⟩ := Option.map_eq_some_iff.mp h
    cases hgives
  | array items closed =>
    obtain ⟨keptItems, hitems, rfl, rfl⟩ := keep?_array_eq_some h
    cases hgives with
    | placed before after _ hplace =>
      obtain ⟨before', raw, after', rfl, hlength, hraw⟩ := keepItems?_split hitems
      exact ⟨raw, .placed before' after' raw (hlength ▸ hplace), hraw⟩
  | object members closed =>
    obtain ⟨keptMembers, hmembers, rfl, rfl⟩ := keep?_object_eq_some h
    cases hgives with
    | named before after _ honce =>
      have hvalue : (before ++ (some name, value) :: after).lookup (some name) = some value :=
        lookup_eq_some fun member hmem => honce member (List.mem_append_left _ hmem)
      obtain ⟨before', raw, after', rfl, hlast, hraw⟩ | ⟨-, habsent⟩ :=
        @lookup_keepMembers? name _ _ _ _ hmembers
      · exact ⟨raw, .named before' after' raw hlast, hraw.trans hvalue⟩
      · rw [hvalue] at habsent
        cases habsent

/-! ### Well-formed values -/

mutual

/-- What can be kept is well-formed, and so is all that is inside it. -/
theorem isSound_of_keep? {depth : Nat} {kept : Node} :
    ∀ node : Node, node.keep? depth = some kept → node.isSound = true
  | .broken, h => by cases h
  | .null, _ | .bool _, _ | .number _, _ | .text _, _ => rfl
  | .array items closed, h => by
    obtain ⟨keptItems, hitems, rfl, -⟩ := keep?_array_eq_some h
    simp [isSound, areSound_of_keepItems? items hitems]
  | .object members closed, h => by
    obtain ⟨keptMembers, hmembers, rfl, -⟩ := keep?_object_eq_some h
    simp [isSound, areSoundMembers_of_keepMembers? members hmembers]
termination_by node => sizeOf node

theorem areSound_of_keepItems? {depth : Nat} {kept : List Node} :
    ∀ nodes : List Node, keepItems? depth nodes = some kept → areSound nodes = true
  | [], _ => rfl
  | node :: rest, h => by
    obtain ⟨keptNode, hnode, hbind⟩ := Option.bind_eq_some_iff.mp h
    obtain ⟨keptRest, hrest, -⟩ := Option.bind_eq_some_iff.mp hbind
    simp [areSound, isSound_of_keep? node hnode, areSound_of_keepItems? rest hrest]
termination_by nodes => sizeOf nodes

theorem areSoundMembers_of_keepMembers? {depth : Nat} {acc kept : List (Option String × Node)} :
    ∀ members : List (Option String × Node), keepMembers? depth members acc = some kept →
      areSoundMembers members = true
  | [], _ => rfl
  | (none, _) :: _, h => by cases h
  | (some name, node) :: rest, h => by
    obtain ⟨keptNode, hnode, hrest⟩ := Option.bind_eq_some_iff.mp h
    simp [areSoundMembers, isSound_of_keep? node hnode, areSoundMembers_of_keepMembers? rest hrest]
termination_by members => sizeOf members

end

end Node

/-- A reader reads only well-formed values. -/
def Reader.ReadsSound {α : Type} (read : Reader α) : Prop :=
  ∀ ⦃source node value⦄, read source node = .ok value → node.isSound = true

theorem readsSound_text : Reader.ReadsSound text := by
  intro source node value h
  rw [text_eq_ok h]
  rfl

theorem readsSound_keep : Reader.ReadsSound (keep depth) := fun _ _ _ h =>
  Node.isSound_of_keep? _ (keep_eq_ok h)

/-- A reader of what may be null accepts only well-formed values if the other one does. -/
theorem Reader.ReadsSound.nullable {α : Type} {read : Reader α} (hread : read.ReadsSound) :
    Reader.ReadsSound (nullable read) := by
  intro source node value h
  unfold Json.nullable at h
  split at h
  · rfl
  · cases hvalue : read source node with
    | error fault => simp [hvalue, Except.map] at h
    | ok value => exact hread hvalue

/-- A field of a record reads only well-formed values. -/
def RecordField.ReadsSound {σ : Type} (field : RecordField σ) : Prop :=
  ∀ ⦃source node record result⦄, field.read source node record = .ok result → node.isSound = true

theorem Reader.ReadsSound.make {σ α : Type} {name : String} {presence : Presence} {read : Reader α}
    {set : α → σ → σ} (hread : read.ReadsSound) :
    (RecordField.make name presence read set).ReadsSound := by
  intro source node record result h
  obtain ⟨value, hvalue, -⟩ := RecordField.read_make_eq_ok h
  exact hread hvalue

namespace Shape

variable {σ : Type} {shape : Shape σ} {source : Source} {closed : Bool} {blank record result : σ}

/-- Each of some fields reads only well-formed values. -/
def ReadSound (fields : List (RecordField σ)) : Prop :=
  ∀ field ∈ fields, field.ReadsSound

/-- An object of which all members were read is well-formed. -/
theorem isSound_of_readMembers {members : List (Option String × Node)} {seen : List String}
    (hfields : ReadSound shape.fields)
    (h : shape.readMembers source closed members seen record = .ok result) :
    (Node.object members closed).isSound = true := by
  fun_induction shape.readMembers source closed members seen record with
  | case1 | case3 | case4 | case6 | case7 => cases h
  | case2 seen record hclosed => simp [Node.isSound, Node.areSoundMembers, hclosed]
  | case5 other node rest seen record hnone hsound ih =>
    simpa [Node.isSound, Node.areSoundMembers, hsound] using ih h
  | case8 other node rest seen record field hfind hnew ih =>
    obtain ⟨next, hread, hrest⟩ := bind_eq_ok h
    have hnode := hfields field (List.mem_of_find?_eq_some hfind) hread
    simpa [Node.isSound, Node.areSoundMembers, hnode] using ih next hrest

/-- An array of which all items were read is well-formed. -/
theorem isSound_of_readItems {length : Nat} {fields : List (RecordField σ)} {nodes : List Node}
    (hfields : ReadSound fields)
    (h : shape.readItems source length closed fields nodes record = .ok result) :
    (Node.array nodes closed).isSound = true := by
  fun_induction shape.readItems source length closed fields nodes record with
  | case2 | case3 | case4 | case5 | case7 => cases h
  | case1 record hclosed => simp [Node.isSound, Node.areSound, hclosed]
  | case6 field fields record hclosed => simpa [Node.isSound, Node.areSound] using hclosed
  | case8 field fields node rest record ih =>
    obtain ⟨next, hread, hrest⟩ := bind_eq_ok h
    obtain ⟨hfield, hleft⟩ := List.forall_mem_cons.mp hfields
    simpa [Node.isSound, Node.areSound, hfield hread] using ih next hleft hrest

/-- A record that reads only well-formed values is well-formed itself. -/
theorem isSound_of_read {node : Node} (hfields : ReadSound shape.fields)
    (h : shape.read blank source node = .ok result) : node.isSound = true := by
  cases node with
  | broken | null | bool | number | text =>
    unfold Shape.read at h
    exact absurd h mismatch_ne_ok
  | array nodes closed => exact isSound_of_readItems hfields h
  | object members closed => exact isSound_of_readMembers hfields h

end Shape

end RiskBoard.Json
