import Mathlib.Data.List.Nodup
import Mathlib.Data.Option.Basic
import RiskBoard.Proofs.Json.Kept

/-!
# What is accepted

A record is read from every object whose members it accepts (`Shape.exists_read`), and a value can
be kept if everything in it has a value and it does not nest too deep (`Node.Storable.exists_keep`).
What is kept is in the order of its names, so a name that stood in it more than once does not any
more, and a record whose fields are read accepts it.

A value carries a figure or nothing (`Node.Carries`), and what is kept of it carries the same
(`Node.Carries.lookup_kept`).
-/

namespace RiskBoard.Json

/-! ### Records -/

namespace Shape

variable {σ : Type} {shape : Shape σ} {source : Source}

/-- The members of an object that a record can be read from: every one has a name and is
well-formed, and the fields of the record are read and stand at most once. -/
structure Accepts (shape : Shape σ) (source : Source) (members : List (Option String × Node)) :
    Prop where
  named : ∀ member ∈ members, member.1 ≠ none
  areSound : Node.areSoundMembers members = true
  once : ∀ field ∈ shape.fields, (members.map (·.1)).count (some field.name) ≤ 1
  reads : ∀ field ∈ shape.fields, ∀ node, (some field.name, node) ∈ members →
    ∀ record, ∃ result, field.read source node record = .ok result

/-- What is accepted of an object is accepted of its later members. -/
theorem Accepts.tail {member : Option String × Node} {rest : List (Option String × Node)}
    (h : shape.Accepts source (member :: rest)) : shape.Accepts source rest where
  named := fun other hmem => h.named other (List.mem_cons_of_mem _ hmem)
  areSound := by
    have hsound := h.areSound
    rw [Node.areSoundMembers, Bool.and_eq_true] at hsound
    exact hsound.2
  once := fun field hfield =>
    Nat.le_trans (List.Sublist.count_le _ (List.sublist_cons_self _ _)) (h.once field hfield)
  reads := fun field hfield node hmem => h.reads field hfield node (List.mem_cons_of_mem _ hmem)

/-- A shape without required fields misses none. -/
theorem missing?_eq_none (h : ∀ field ∈ shape.fields, field.presence ≠ .required)
    (seen : List String) : shape.missing? seen = none := by
  rw [missing?, List.find?_eq_none.mpr, Option.map_none]
  intro field hfield
  simp [h field hfield]

/-- Accepted members are read, whatever was seen before them under other names. -/
theorem exists_readMembers {members : List (Option String × Node)} {seen : List String}
    (hpresence : ∀ field ∈ shape.fields, field.presence ≠ .required)
    (h : shape.Accepts source members) (hseen : ∀ name ∈ seen, some name ∉ members.map (·.1))
    (record : σ) : ∃ result, shape.readMembers source true members seen record = .ok result := by
  induction members generalizing seen record with
  | nil =>
    refine ⟨record, ?_⟩
    rw [readMembers, if_pos rfl, missing?_eq_none hpresence]
  | cons member rest ih =>
    obtain ⟨label, node⟩ := member
    obtain ⟨name, rfl⟩ := Option.ne_none_iff_exists'.mp (h.named _ List.mem_cons_self)
    have hseenRest : ∀ other ∈ seen, some other ∉ rest.map (·.1) := fun other hother hmem =>
      hseen other hother (List.mem_cons_of_mem _ hmem)
    rw [readMembers]
    cases hfind : shape.fields.find? (·.name = name) with
    | none =>
      have hsound := h.areSound
      rw [Node.areSoundMembers, Bool.and_eq_true] at hsound
      simp only [hsound.1, if_true]
      exact ih h.tail hseenRest record
    | some field =>
      have hfield : field ∈ shape.fields := List.mem_of_find?_eq_some hfind
      have hname : field.name = name := by simpa using List.find?_some hfind
      have hnew : seen.contains name = false := by
        rw [← Bool.not_eq_true, List.contains_iff_mem]
        exact fun hmem => hseen name hmem List.mem_cons_self
      obtain ⟨next, hnext⟩ :=
        h.reads field hfield node (hname ▸ List.mem_cons_self) record
      -- a second member of the name would be one too many
      have hlast : some name ∉ rest.map (·.1) := by
        have honce := h.once field hfield
        rw [hname, List.map_cons, List.count_cons_self] at honce
        exact List.count_eq_zero.mp (by omega)
      obtain ⟨result, hresult⟩ :=
        ih h.tail (List.forall_mem_cons.mpr ⟨hlast, hseenRest⟩) next
      refine ⟨result, ?_⟩
      simp only [hnew, Bool.false_eq_true, if_false, hnext]
      exact hresult

/-- A record of which no field is required is read from an object whose members it accepts. -/
theorem exists_read {members : List (Option String × Node)}
    (hpresence : ∀ field ∈ shape.fields, field.presence ≠ .required)
    (h : shape.Accepts source members) (blank : σ) :
    ∃ result, shape.read blank source (.object members true) = .ok result :=
  exists_readMembers hpresence h (fun _ hmem => absurd hmem List.not_mem_nil) blank

end Shape

/-- A field is read if its value is. -/
theorem RecordField.exists_read_make {σ α : Type} {name : String} {presence : Presence}
    {read : Reader α} {set : α → σ → σ} {source : Source} {node : Node} {value : α}
    (h : read source node = .ok value) (record : σ) :
    ∃ result, (make name presence read set).read source node record = .ok result := by
  refine ⟨set value record, ?_⟩
  change (read source node).map (set · record) = _
  rw [h]
  rfl

/-! ### Values that can be kept -/

namespace Node

/-- A value in which all numerals, strings and names stand for something, and in which arrays and
objects nest no deeper than `depth`. -/
inductive Storable : Nat → Node → Prop
  | null {depth : Nat} : Storable depth .null
  | bool {depth : Nat} (b : Bool) : Storable depth (.bool b)
  | number {depth : Nat} (n : Number) : Storable depth (.number (some n))
  | text {depth : Nat} (s : String) : Storable depth (.text (some s))
  | array {depth : Nat} {items : List Node} (h : ∀ item ∈ items, Storable depth item) :
    Storable (depth + 1) (.array items true)
  | object {depth : Nat} {members : List (Option String × Node)}
    (hnamed : ∀ member ∈ members, member.1 ≠ none)
    (h : ∀ member ∈ members, Storable depth member.2) :
    Storable (depth + 1) (.object members true)

/-- What can be kept of an object can be kept of its members, one level less deep. -/
theorem Storable.members {depth : Nat} {members : List (Option String × Node)}
    (h : (Node.object members true).Storable (depth + 1)) :
    (∀ member ∈ members, member.1 ≠ none) ∧ ∀ member ∈ members, Storable depth member.2 := by
  cases h with
  | object hnamed h => exact ⟨hnamed, h⟩

/-- All members have names, which increase. -/
def InNameOrder (members : List (Option String × Node)) : Prop :=
  ∃ names : List String, members.map (·.1) = names.map some ∧ names.Pairwise (· < ·)

/-- Members in the order of their names have names. -/
theorem InNameOrder.named {members : List (Option String × Node)} (h : InNameOrder members) :
    ∀ member ∈ members, member.1 ≠ none := by
  obtain ⟨names, hnames, -⟩ := h
  intro member hmem hnone
  have hlabel : member.1 ∈ names.map some := hnames ▸ List.mem_map_of_mem hmem
  rw [hnone] at hlabel
  simp at hlabel

/-- No name stands twice among members in the order of their names. -/
theorem InNameOrder.count_le {members : List (Option String × Node)} (h : InNameOrder members)
    (name : String) : (members.map (·.1)).count (some name) ≤ 1 := by
  obtain ⟨names, hnames, horder⟩ := h
  have hnodup : names.Nodup :=
    horder.imp fun {m n} (hlt : m < n) (heq : m = n) => String.lt_irrefl n (heq ▸ hlt)
  rw [hnames]
  exact List.nodup_iff_count_le_one.mp (hnodup.map (Option.some_injective _)) (some name)

/-- Members are in order if the first name is before all others and these are in order. -/
theorem inNameOrder_cons {first : String} {node : Node} {rest : List (Option String × Node)} :
    InNameOrder ((some first, node) :: rest) ↔
      InNameOrder rest ∧ ∀ name, some name ∈ rest.map (·.1) → first < name := by
  constructor
  · rintro ⟨_ | ⟨_, names⟩, hnames, horder⟩
    · cases hnames
    · obtain ⟨⟨⟩, hrest⟩ := List.cons_eq_cons.mp hnames
      obtain ⟨hfirst, horder⟩ := List.pairwise_cons.mp horder
      refine ⟨⟨names, hrest, horder⟩, fun name hname => hfirst name ?_⟩
      rw [hrest] at hname
      exact (List.mem_map_of_injective (Option.some_injective _)).mp hname
  · rintro ⟨⟨names, hrest, horder⟩, hfirst⟩
    refine ⟨first :: names, by rw [List.map_cons, hrest]; rfl, ?_⟩
    refine List.pairwise_cons.mpr ⟨fun name hname => hfirst name ?_, horder⟩
    rw [hrest]
    exact List.mem_map_of_mem hname

/-- Putting a member in its place adds no name but its own. -/
theorem label_mem_putMember {name other : String} {node : Node}
    {members : List (Option String × Node)}
    (h : some other ∈ (putMember name node members).map (·.1)) :
    other = name ∨ some other ∈ members.map (·.1) := by
  fun_induction putMember name node members with
  | case1 => simpa using h
  | case2 third old rest hlt ih =>
    rw [List.map_cons, List.mem_cons] at h ⊢
    obtain h | h := h
    · exact .inr (.inl h)
    · exact (ih h).imp_right .inr
  | case3 third old rest => simpa using h
  | case4 third old rest =>
    rw [List.map_cons, List.mem_cons] at h ⊢
    obtain h | h := h
    · exact .inl (Option.some.inj h)
    · exact .inr (.inr h)
  | case5 old rest ih =>
    rw [List.map_cons, List.mem_cons] at h ⊢
    obtain h | h := h
    · exact .inr (.inl h)
    · exact (ih h).imp_right .inr

/-- Members that are put in stay in the order of their names. -/
theorem InNameOrder.putMember {members : List (Option String × Node)} (h : InNameOrder members)
    (name : String) (node : Node) : InNameOrder (putMember name node members) := by
  fun_induction Node.putMember name node members with
  | case1 => exact ⟨[name], rfl, List.pairwise_singleton _ _⟩
  | case2 third old rest hlt ih =>
    obtain ⟨hrest, hthird⟩ := inNameOrder_cons.mp h
    refine inNameOrder_cons.mpr ⟨ih hrest, fun other hother => ?_⟩
    obtain rfl | hmem := label_mem_putMember hother
    · exact hlt
    · exact hthird other hmem
  | case3 third old rest hnot hlt =>
    refine inNameOrder_cons.mpr ⟨h, fun other hother => ?_⟩
    obtain ⟨-, hthird⟩ := inNameOrder_cons.mp h
    rw [List.map_cons, List.mem_cons] at hother
    obtain heq | hmem := hother
    · exact Option.some.inj heq ▸ hlt
    · exact String.lt_trans hlt (hthird other hmem)
  | case4 third old rest hnot hnotLt =>
    obtain rfl : third = name :=
      String.le_antisymm (String.not_lt.mp hnotLt) (String.not_lt.mp hnot)
    exact inNameOrder_cons.mpr (inNameOrder_cons.mp h)
  | case5 old rest =>
    exact absurd rfl (h.named _ List.mem_cons_self)

/-- Putting a well-formed member in its place leaves the members well-formed. -/
theorem areSoundMembers_putMember {members : List (Option String × Node)} {name : String}
    {node : Node} (hnode : node.isSound = true) (h : areSoundMembers members = true) :
    areSoundMembers (putMember name node members) = true := by
  fun_induction Node.putMember name node members with
  | case1 => simp [areSoundMembers, hnode]
  | case2 third old rest hlt ih => simp_all [areSoundMembers]
  | case3 third old rest => simp_all [areSoundMembers]
  | case4 third old rest => simp_all [areSoundMembers]
  | case5 old rest ih => simp_all [areSoundMembers]

/-- Items that can be kept one by one can be kept together. -/
theorem exists_keepItems? {depth : Nat} {items : List Node}
    (h : ∀ item ∈ items, ∃ kept, item.keep? depth = some kept ∧ kept.isSound = true) :
    ∃ kept, keepItems? depth items = some kept ∧ areSound kept = true := by
  induction items with
  | nil => exact ⟨[], rfl, rfl⟩
  | cons item rest ih =>
    obtain ⟨⟨kept, hkept, hsound⟩, hrest⟩ := List.forall_mem_cons.mp h
    obtain ⟨keptRest, hkeptRest, hsoundRest⟩ := ih hrest
    refine ⟨kept :: keptRest, ?_, ?_⟩
    · rw [keepItems?, hkept]
      change (keepItems? depth rest).bind _ = _
      rw [hkeptRest]
      rfl
    · rw [areSound, hsound, hsoundRest]
      rfl

/-- What is kept of members is well-formed and in the order of their names. -/
theorem exists_keepMembers? {depth : Nat} {members acc : List (Option String × Node)}
    (hnamed : ∀ member ∈ members, member.1 ≠ none)
    (h : ∀ member ∈ members, ∃ kept, member.2.keep? depth = some kept ∧ kept.isSound = true)
    (hacc : InNameOrder acc) (hsound : areSoundMembers acc = true) :
    ∃ kept, keepMembers? depth members acc = some kept ∧ InNameOrder kept ∧
      areSoundMembers kept = true := by
  induction members generalizing acc with
  | nil => exact ⟨acc, rfl, hacc, hsound⟩
  | cons member rest ih =>
    obtain ⟨label, node⟩ := member
    obtain ⟨hlabel, hnamedRest⟩ := List.forall_mem_cons.mp hnamed
    obtain ⟨name, rfl⟩ := Option.ne_none_iff_exists'.mp hlabel
    obtain ⟨⟨kept, hkept, hkeptSound⟩, hrest⟩ := List.forall_mem_cons.mp h
    obtain ⟨result, hresult, horder, hall⟩ := ih hnamedRest hrest (hacc.putMember name kept)
      (areSoundMembers_putMember hkeptSound hsound)
    refine ⟨result, ?_, horder, hall⟩
    rw [keepMembers?]
    change (node.keep? depth).bind _ = _
    rw [hkept]
    exact hresult

theorem inNameOrder_nil : InNameOrder [] := ⟨[], rfl, .nil⟩

/-- A storable value can be kept. -/
theorem Storable.exists_keep {depth : Nat} {node : Node} (h : node.Storable depth) :
    ∃ kept, node.keep? depth = some kept ∧ kept.isSound = true := by
  induction h with
  | null | bool | number | text => exact ⟨_, rfl, rfl⟩
  | @array depth items _ ih =>
    obtain ⟨kept, hkept, hsound⟩ := exists_keepItems? ih
    refine ⟨.array kept true, ?_, by rw [isSound, hsound]; rfl⟩
    rw [keep?, if_neg (Nat.succ_ne_zero depth), Nat.add_sub_cancel, hkept]
    rfl
  | @object depth members hnamed _ ih =>
    obtain ⟨kept, hkept, -, hsound⟩ := exists_keepMembers? hnamed ih inNameOrder_nil rfl
    refine ⟨.object kept true, ?_, by rw [isSound, hsound]; rfl⟩
    rw [keep?, if_neg (Nat.succ_ne_zero depth), Nat.add_sub_cancel, hkept]
    rfl

/-! ### Names that stand once, and the last of a name -/

section Named

variable {names : List String} {name : String} {members : List (Option String × Node)}
  {value other : Node}

/-- A name that stands once is found where it stands. -/
theorem GivesOnce.lookup (h : (object members true).GivesOnce names name value) :
    members.lookup (some name) = some value := by
  obtain ⟨before, after, _, honce⟩ := h
  exact lookup_eq_some fun member hmem => honce member (List.mem_append_left _ hmem)

/-- It has no other value. -/
theorem GivesOnce.eq_of_mem (h : (object members true).GivesOnce names name value)
    (hmem : (some name, other) ∈ members) : other = value := by
  obtain ⟨before, after, _, honce⟩ := h
  obtain hbefore | hmem := List.mem_append.mp hmem
  · exact absurd rfl (honce _ (List.mem_append_left _ hbefore))
  · obtain heq | hafter := List.mem_cons.mp hmem
    · cases heq
      rfl
    · exact absurd rfl (honce _ (List.mem_append_right _ hafter))

theorem GivesOnce.count_le (h : (object members true).GivesOnce names name value) :
    (members.map (·.1)).count (some name) ≤ 1 := by
  obtain ⟨before, after, _, honce⟩ := h
  have habsent : ∀ others : List (Option String × Node),
      (∀ member ∈ others, member ∈ before ++ after) →
        (others.map (·.1)).count (some name) = 0 := by
    refine fun others hothers => List.count_eq_zero.mpr fun hmem => ?_
    obtain ⟨member, hmember, hname⟩ := List.mem_map.mp hmem
    exact honce member (hothers member hmember) hname
  refine Nat.le_of_eq ?_
  rw [List.map_append, List.map_cons, List.count_append, List.count_cons_self,
    habsent before fun member hmem => List.mem_append_left _ hmem,
    habsent after fun member hmem => List.mem_append_right _ hmem]

/-- Of a name that stands several times the last is found first from behind. -/
theorem Gives.lookup_reverse (h : (object members true).Gives names name value) :
    members.reverse.lookup (some name) = some value := by
  obtain ⟨before, after, _, hlast⟩ := h
  rw [List.reverse_append, List.reverse_cons, List.append_assoc, List.singleton_append]
  exact lookup_eq_some fun member hmem => hlast member (List.mem_reverse.mp hmem)

/-- Among members in order every member is found under its name. -/
theorem InNameOrder.lookup_of_mem (h : InNameOrder members) (hmem : (some name, value) ∈ members) :
    members.lookup (some name) = some value := by
  have hcount := h.count_le name
  obtain ⟨before, after, rfl⟩ := List.append_of_mem hmem
  refine lookup_eq_some fun member hbefore heq => ?_
  have hpos : 0 < (before.map (·.1)).count (some name) :=
    List.count_pos_iff.mpr (heq ▸ List.mem_map_of_mem hbefore)
  rw [List.map_append, List.map_cons, List.count_append, List.count_cons_self] at hcount
  omega

end Named

/-! ### Figures that are carried -/

/-- What a value carries under a name: the double of the number that it gives, or nothing if it
gives null or gives nothing. -/
inductive Carries (names : List String) (name : String) (node : Node) : Option Binary64 → Prop
  | number (n : Number) (h : node.Gives names name (.number (some n))) :
    Carries names name node (some n.toReal)
  | nothing (h : ∀ value, node.Gives names name value → value = .null) :
    Carries names name node none

section Carried

variable {names : List String} {name : String} {depth : Nat}
  {members kept : List (Option String × Node)} {value : Node} {v : Option Binary64}

/-- What is kept under a name is what was given under it. -/
theorem Gives.lookup_kept (h : (object members true).Gives names name value)
    (hkept : keepMembers? depth members [] = some kept) :
    kept.lookup (some name) = value.keep? depth := by
  have hvalue := h.lookup_reverse
  obtain ⟨before, raw, after, rfl, hlast, hraw⟩ | ⟨habsent, -⟩ :=
    @lookup_keepMembers? name _ _ _ _ hkept
  · have hgives : (object (before ++ (some name, raw) :: after) true).Gives names name raw :=
      .named before after raw hlast
    rw [hgives.lookup_reverse] at hvalue
    rw [← Option.some.inj hvalue, hraw]
  · rw [lookup_eq_none fun member hmem => habsent member (List.mem_reverse.mp hmem)] at hvalue
    cases hvalue

/-- A record reads what is carried from what is kept. -/
theorem Carries.nullable_real (h : (object members true).Carries names name v)
    (hkept : keepMembers? depth members [] = some kept)
    (hvalue : kept.lookup (some name) = some value) (source : Source) :
    nullable real source value = .ok v := by
  cases h with
  | number n h =>
    rw [h.lookup_kept hkept] at hvalue
    cases hvalue
    rfl
  | nothing h =>
    obtain ⟨before, raw, after, rfl, hlast, hraw⟩ | ⟨-, habsent⟩ :=
      @lookup_keepMembers? name _ _ _ _ hkept
    · obtain rfl := h raw (.named before after raw hlast)
      rw [hvalue] at hraw
      cases hraw
      rfl
    · rw [hvalue] at habsent
      cases habsent

/-- Nothing is carried under a name that is not kept. -/
theorem Carries.eq_none (h : (object members true).Carries names name v)
    (hkept : keepMembers? depth members [] = some kept)
    (hvalue : kept.lookup (some name) = none) : v = none := by
  cases h with
  | number n h =>
    rw [h.lookup_kept hkept] at hvalue
    cases hvalue
  | nothing => rfl

end Carried

end Node

/-! ### Records of figures -/

namespace Shape

variable {σ : Type} {shape : Shape σ} {depth : Nat} {members : List (Option String × Node)}
  {names : List String}

/-- A field that holds a double or nothing. -/
def IsFigureField (field : RecordField σ) : Prop :=
  field.presence ≠ .required ∧ ∀ source node record value, nullable real source node = .ok value →
    ∃ result, field.read source node record = .ok result

/-- **Figures are recovered.** If a storable value carries something or nothing under every name
of a record of figures, then the record is read from what is kept of the value, and it has in
every field what the value carries. -/
theorem exists_read_kept (hfields : ∀ field ∈ shape.fields, IsFigureField field)
    (hmembers : (Node.object members true).Storable (depth + 1))
    (hcarries : ∀ field ∈ shape.fields, ∃ v, (Node.object members true).Carries names field.name v)
    (blank : σ) :
    ∃ kept result, (Node.object members true).keep? (depth + 1) = some kept ∧
      shape.read blank .kept kept = .ok result ∧
      ∀ name get v, shape.Sets name get (nullable real) → get blank = none →
        (Node.object members true).Carries names name v → get result = v := by
  obtain ⟨hnamed, hstorable⟩ := hmembers.members
  obtain ⟨kept, hkept, horder, hsound⟩ := Node.exists_keepMembers? hnamed
    (fun member hmem => (hstorable member hmem).exists_keep) Node.inNameOrder_nil rfl
  have haccepts : shape.Accepts .kept kept := by
    refine ⟨horder.named, hsound, fun field _ => horder.count_le _, ?_⟩
    intro field hfield node hmem record
    obtain ⟨v, hv⟩ := hcarries field hfield
    exact (hfields field hfield).2 _ _ _ _
      (hv.nullable_real hkept (horder.lookup_of_mem hmem) .kept)
  obtain ⟨result, hresult⟩ :=
    exists_read (fun field hfield => (hfields field hfield).1) haccepts blank
  refine ⟨.object kept true, result, ?_, hresult, fun name get v hsets hblank hv => ?_⟩
  · rw [Node.keep?, if_neg (Nat.succ_ne_zero depth), Nat.add_sub_cancel, hkept]
    rfl
  · obtain ⟨habsent, hpresent⟩ := hsets.readMembers_lookup hresult
    cases hlookup : kept.lookup (some name) with
    | none => rw [habsent hlookup, hblank, hv.eq_none hkept hlookup]
    | some value =>
      have hread := (hpresent value hlookup).symm.trans (hv.nullable_real hkept hlookup .kept)
      exact Except.ok.inj hread

end Shape

end RiskBoard.Json
