import RiskBoard.Json.Record

/-!
# Where the fields of a record come from

A field of a record is given by name in an object or by place in an array. `Node.Gives` says so for
values that may hold a name more than once, where the last one counts, and `Node.GivesOnce` for
objects in which the name stands once. A record that was read has, in every field, the value that it
started with or one that was read from what gives the field (`Shape.Sets.read_given`); nothing else
ever sets a field. From an object the field has the value that it started with only if the name does
not stand in it at all (`Shape.Sets.readMembers_lookup`).
-/

namespace RiskBoard.Json

/-- A value gives a field of a record: the field's value is its last member of that name, or what
stands in the field's place. -/
inductive Node.Gives (names : List String) (name : String) : Node → Node → Prop
  | named (before after : List (Option String × Node)) (value : Node)
    (hlast : ∀ member ∈ after, member.1 ≠ some name) :
    Gives names name (.object (before ++ (some name, value) :: after) true) value
  | placed (before after : List Node) (value : Node) (hplace : names[before.length]? = some name) :
    Gives names name (.array (before ++ value :: after) true) value

/-- A value gives a field of a record only once: the field's value is its only member of that name,
or what stands in the field's place. -/
inductive Node.GivesOnce (names : List String) (name : String) : Node → Node → Prop
  | named (before after : List (Option String × Node)) (value : Node)
    (honce : ∀ member ∈ before ++ after, member.1 ≠ some name) :
    GivesOnce names name (.object (before ++ (some name, value) :: after) true) value
  | placed (before after : List Node) (value : Node) (hplace : names[before.length]? = some name) :
    GivesOnce names name (.array (before ++ value :: after) true) value

/-! ### Members -/

/-- A name that no member has is not found. -/
theorem Node.lookup_eq_none {name : String} {members : List (Option String × Node)}
    (h : ∀ member ∈ members, member.1 ≠ some name) : members.lookup (some name) = none :=
  List.lookup_eq_none_iff.mpr fun member hmem => by simpa using Ne.symm (h member hmem)

/-- A name is found at its first member. -/
theorem Node.lookup_eq_some {name : String} {before after : List (Option String × Node)}
    {value : Node} (h : ∀ member ∈ before, member.1 ≠ some name) :
    (before ++ (some name, value) :: after).lookup (some name) = some value := by
  simp [List.lookup_append, Node.lookup_eq_none h]

/-! ### Readers -/

section Readers

variable {α : Type} {read : Reader α} {source : Source} {node : Node}

/-- A value of another type is never accepted. -/
theorem mismatch_ne_ok {expected : String} {a : α} : mismatch node expected ≠ .ok a := by
  unfold mismatch
  split <;> simp

/-- Only numbers are read as doubles. -/
theorem real_eq_ok {x : Binary64} (h : real source node = .ok x) :
    ∃ n, node = .number (some n) ∧ n.toReal = x := by
  unfold real at h
  split at h
  · exact ⟨_, rfl, by simpa using h⟩
  · exact absurd h mismatch_ne_ok

/-- Only strings are read as texts. -/
theorem text_eq_ok {s : String} (h : text source node = .ok s) : node = .text (some s) := by
  unfold text at h
  split at h
  · simpa using h
  · exact absurd h mismatch_ne_ok

/-- What may be null and is given is read as what it is. -/
theorem nullable_eq_ok_some {a : α} (h : nullable read source node = .ok (some a)) :
    read source node = .ok a := by
  unfold nullable at h
  split at h
  · cases h
  · cases hread : read source node with
    | error fault => simp [hread, Except.map] at h
    | ok value => simpa [hread, Except.map] using h

theorem keep_eq_ok {depth : Nat} {kept : Node} (h : keep depth source node = .ok kept) :
    node.keep? depth = some kept := by
  cases hkeep : node.keep? depth with
  | none => simp [keep, hkeep] at h
  | some value => simpa [keep, hkeep] using h

/-- A text that was read is one value, and reading it was reading that value. -/
theorem readText_eq_ok {t : String} {a : α} (h : readText read t = .ok a) :
    ∃ root, Document.ofText t = ⟨root, true⟩ ∧ read .text root = .ok a := by
  unfold readText at h
  cases hdocument : Document.ofText t with
  | mk root ended =>
    simp only [hdocument] at h
    cases hread : read .text root with
    | error fault => simp [hread] at h
    | ok value =>
      cases ended with
      | false => simp [hread] at h
      | true => exact ⟨root, rfl, by simpa [hread] using h⟩

end Readers

/-! ### Records -/

/-- How a field of a record bears on a part of it: the field of that name sets the part to what it
reads, and a field of another name leaves it alone. -/
inductive RecordField.Acts {σ β : Type} (name : String) (get : σ → β) (read : Reader β)
    (field : RecordField σ) : Prop
  | own (hname : field.name = name) (h : ∀ source node record result,
      field.read source node record = .ok result → read source node = .ok (get result))
  | other (hname : field.name ≠ name) (h : ∀ source node record result,
      field.read source node record = .ok result → get result = get record)

namespace RecordField

variable {σ α β : Type} {name : String} {presence : Presence} {get : σ → β}

/-- What a field makes of a node: it reads a value and sets it. -/
theorem read_make_eq_ok {read : Reader α} {set : α → σ → σ} {source : Source} {node : Node}
    {record result : σ} (h : (make name presence read set).read source node record = .ok result) :
    ∃ value, read source node = .ok value ∧ set value record = result := by
  cases hread : read source node with
  | error fault => simp [make, hread, Except.map] at h
  | ok value => exact ⟨value, rfl, by simpa [make, hread, Except.map] using h⟩

/-- A field acts on the part of the record that it sets. -/
theorem Acts.make_own {read : Reader β} {set : β → σ → σ}
    (hset : ∀ value record, get (set value record) = value) :
    (make name presence read set).Acts name get read := by
  refine .own rfl fun source node record result h => ?_
  obtain ⟨value, hread, rfl⟩ := read_make_eq_ok h
  rw [hset, hread]

/-- A field of another name leaves that part as it is. -/
theorem Acts.make_other {other : String} {readOther : Reader α} {read : Reader β}
    {set : α → σ → σ} (hname : other ≠ name)
    (hset : ∀ value record, get (set value record) = get record) :
    (make other presence readOther set).Acts name get read := by
  refine .other hname fun source node record result h => ?_
  obtain ⟨value, -, rfl⟩ := read_make_eq_ok h
  exact hset value record

end RecordField

namespace Shape

variable {σ β : Type} {shape : Shape σ} {name : String} {get : σ → β} {read : Reader β}
  {source : Source} {closed : Bool} {record result : σ}

/-- One field of a record sets a part of it, and no other field touches that part. -/
structure Sets (shape : Shape σ) (name : String) (get : σ → β) (read : Reader β) : Prop where
  nodup : (shape.fields.map (·.name)).Nodup
  mem : name ∈ shape.fields.map (·.name)
  acts : ∀ field ∈ shape.fields, field.Acts name get read

theorem bind_eq_ok {α γ : Type} {first : Except Fault α} {next : α → Except Fault γ}
    {value : γ} (h : (first >>= next) = .ok value) :
    ∃ a, first = .ok a ∧ next a = .ok value := by
  cases first with
  | error fault => cases h
  | ok a => exact ⟨a, rfl, h⟩

/-- A member of a name that was seen would be a second one. -/
theorem Sets.ne_of_seen {members : List (Option String × Node)} {seen : List String}
    (hsets : shape.Sets name get read)
    (h : shape.readMembers source closed members seen record = .ok result) (hseen : name ∈ seen) :
    ∀ member ∈ members, member.1 ≠ some name := by
  fun_induction shape.readMembers source closed members seen record with
  | case1 | case2 => exact fun _ hmem => absurd hmem List.not_mem_nil
  | case3 | case4 | case6 | case7 => cases h
  | case5 other node rest seen record hnone hsound ih =>
    refine List.forall_mem_cons.mpr ⟨fun heq => ?_, ih h hseen⟩
    -- a name that no field has is passed over, so it is another one
    obtain ⟨field, hfield, hname⟩ := List.mem_map.mp hsets.mem
    exact List.find?_eq_none.mp hnone field hfield (by simp_all)
  | case8 other node rest seen record field hfind hnew ih =>
    obtain ⟨next, -, hrest⟩ := bind_eq_ok h
    refine List.forall_mem_cons.mpr ⟨fun heq => ?_, ih next hrest (List.mem_cons_of_mem _ hseen)⟩
    simp_all

/-- After an object's members are read, a part is untouched or comes from a member of its name. -/
theorem Sets.readMembers_given {members : List (Option String × Node)} {seen : List String}
    (hsets : shape.Sets name get read)
    (h : shape.readMembers source closed members seen record = .ok result) :
    closed = true ∧ ((get result = get record ∧ ∀ member ∈ members, member.1 ≠ some name) ∨
      ∃ before value after, members = before ++ (some name, value) :: after ∧
      (∀ member ∈ before ++ after, member.1 ≠ some name) ∧
      read source value = .ok (get result)) := by
  fun_induction shape.readMembers source closed members seen record with
  | case1 | case3 | case4 | case6 | case7 => cases h
  | case2 seen record hclosed =>
    cases h
    exact ⟨hclosed, .inl ⟨rfl, fun _ hmem => absurd hmem List.not_mem_nil⟩⟩
  | case5 other node rest seen record hnone hsound ih =>
    -- a name that no field has is passed over, so it is another one
    have hother : some other ≠ some name := by
      intro heq
      obtain ⟨field, hfield, hname⟩ := List.mem_map.mp hsets.mem
      exact List.find?_eq_none.mp hnone field hfield (by simp_all)
    obtain ⟨hclosed, ⟨hsame, habsent⟩ | ⟨before, value, after, rfl, honce, hread⟩⟩ := ih h
    · exact ⟨hclosed, .inl ⟨hsame, List.forall_mem_cons.mpr ⟨hother, habsent⟩⟩⟩
    · refine ⟨hclosed, .inr ⟨(some other, node) :: before, value, after, rfl, ?_, hread⟩⟩
      exact List.forall_mem_cons.mpr ⟨hother, honce⟩
  | case8 other node rest seen record field hfind hnew ih =>
    obtain ⟨next, hfieldRead, hrest⟩ := bind_eq_ok h
    have hfield : field ∈ shape.fields := List.mem_of_find?_eq_some hfind
    have hname : field.name = other := by simpa using List.find?_some hfind
    obtain ⟨hclosed, hgiven⟩ := ih next hrest
    refine ⟨hclosed, ?_⟩
    cases hsets.acts field hfield with
    | own hown hset =>
      obtain rfl : other = name := hname.symm.trans hown
      have hone := hsets.ne_of_seen hrest List.mem_cons_self
      have hsame : get result = get next := by
        obtain ⟨hsame, -⟩ | ⟨before, value, after, rfl, -⟩ := hgiven
        · exact hsame
        · exact absurd rfl (hone (some other, value) (by simp))
      exact .inr ⟨[], node, rest, rfl, hone, hsame ▸ hset _ _ _ _ hfieldRead⟩
    | other hother hkept =>
      have hkeep := hkept _ _ _ _ hfieldRead
      have hne : some other ≠ some name := by simpa [← hname] using hother
      obtain ⟨hsame, habsent⟩ | ⟨before, value, after, rfl, honce, hread⟩ := hgiven
      · exact .inl ⟨hsame.trans hkeep, List.forall_mem_cons.mpr ⟨hne, habsent⟩⟩
      · refine .inr ⟨(some other, node) :: before, value, after, rfl, ?_, hread⟩
        exact List.forall_mem_cons.mpr ⟨hne, honce⟩

/-- A part of a record that was read from an object is read from the member of its name; without
such a member it is as it was at the start. -/
theorem Sets.readMembers_lookup {members : List (Option String × Node)} {seen : List String}
    (hsets : shape.Sets name get read)
    (h : shape.readMembers source closed members seen record = .ok result) :
    (members.lookup (some name) = none → get result = get record) ∧
      ∀ value, members.lookup (some name) = some value → read source value = .ok (get result) := by
  obtain ⟨-, ⟨hsame, habsent⟩ | ⟨before, value, after, rfl, honce, hread⟩⟩ :=
    hsets.readMembers_given h
  · rw [Node.lookup_eq_none habsent]
    exact ⟨fun _ => hsame, nofun⟩
  · rw [Node.lookup_eq_some fun member hmem => honce member (List.mem_append_left _ hmem)]
    exact ⟨nofun, fun _ heq => Option.some.inj heq ▸ hread⟩

/-- After an array's items are read, a part is untouched or comes from the item in its place. -/
theorem Sets.readItems_given {length : Nat} {fields : List (RecordField σ)} {nodes : List Node}
    (hsets : shape.Sets name get read) (hsuffix : fields <:+ shape.fields)
    (h : shape.readItems source length closed fields nodes record = .ok result) :
    closed = true ∧ (get result = get record ∨ ∃ before value after,
      nodes = before ++ value :: after ∧ (fields.map (·.name))[before.length]? = some name ∧
      read source value = .ok (get result)) := by
  fun_induction shape.readItems source length closed fields nodes record with
  | case2 | case3 | case4 | case5 | case7 => cases h
  | case1 record hclosed =>
    cases h
    exact ⟨hclosed, .inl rfl⟩
  | case6 field fields record hclosed hpresence ih =>
    obtain ⟨hclosed, hsame | ⟨before, value, after, hnil, -⟩⟩ :=
      ih ((List.suffix_cons ..).trans hsuffix) h
    · exact ⟨hclosed, .inl hsame⟩
    · exact absurd hnil (by simp)
  | case8 field fields node rest record ih =>
    obtain ⟨next, hfieldRead, hrest⟩ := bind_eq_ok h
    have hfield : field ∈ shape.fields := hsuffix.mem List.mem_cons_self
    obtain ⟨hclosed, hgiven⟩ := ih next ((List.suffix_cons ..).trans hsuffix) hrest
    refine ⟨hclosed, ?_⟩
    cases hsets.acts field hfield with
    | own hname hset =>
      -- the places that are left belong to fields of other names
      have hleft : name ∉ fields.map (·.name) := by
        have hnodup := hsets.nodup.sublist (hsuffix.map (·.name)).sublist
        rw [List.map_cons, List.nodup_cons] at hnodup
        exact hname ▸ hnodup.1
      have hsame : get result = get next := by
        obtain hsame | ⟨before, value, after, -, hplace, -⟩ := hgiven
        · exact hsame
        · exact absurd (List.mem_of_getElem? hplace) hleft
      exact .inr ⟨[], node, rest, rfl, by simp [hname], hsame ▸ hset _ _ _ _ hfieldRead⟩
    | other hname hkept =>
      have hkeep := hkept _ _ _ _ hfieldRead
      obtain hsame | ⟨before, value, after, rfl, hplace, hread⟩ := hgiven
      · exact .inl (hsame.trans hkeep)
      · exact .inr ⟨node :: before, value, after, rfl, by simpa using hplace, hread⟩

/-- A part of a record that was read is as it was at the start, or it was read from the one value
that gives it. -/
theorem Sets.read_given {blank : σ} {node : Node} (hsets : shape.Sets name get read)
    (h : shape.read blank source node = .ok result) :
    get result = get blank ∨ ∃ value,
      node.GivesOnce (shape.fields.map (·.name)) name value ∧
      read source value = .ok (get result) := by
  cases node with
  | broken | null | bool | number | text =>
    unfold Shape.read at h
    exact absurd h mismatch_ne_ok
  | array nodes closed =>
    obtain ⟨rfl, hsame | ⟨before, value, after, rfl, hplace, hread⟩⟩ :=
      hsets.readItems_given List.suffix_rfl h
    · exact .inl hsame
    · exact .inr ⟨value, .placed before after value hplace, hread⟩
  | object members closed =>
    obtain ⟨rfl, ⟨hsame, -⟩ | ⟨before, value, after, rfl, honce, hread⟩⟩ :=
      hsets.readMembers_given h
    · exact .inl hsame
    · exact .inr ⟨value, .named before after value honce, hread⟩

end Shape

end RiskBoard.Json
