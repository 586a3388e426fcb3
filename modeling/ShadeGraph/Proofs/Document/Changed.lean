import ShadeGraph.Proofs.Document.Reloaded

/-!
# Reading changed data

A change to a document alters the values of some fields, or the items of some
lists, and leaves the rest alone. If what is read of every part that was changed
stands in a relation to what was read of it before, then so does what is read of
the whole.
-/

namespace ShadeGraph

open Checked

variable {α β γ κ : Type}

namespace Data

def get? (data : Data α) (key : String) : Option (Data α) :=
  match data with
  | .record fields => fields.lookup key
  | _ => none

/-- What a record holds as text. -/
def text? (data : Data α) (key : String) : Option String :=
  match data.get? key with
  | some (.text value) => some value
  | _ => none

theorem text?_eq_some {data : Data α} {key value : String} : data.text? key = some value ↔
    ∃ fields, data = .record fields ∧ fields.lookup key = some (.text value) := by
  constructor
  · intro h
    cases data with
    | record fields =>
      refine ⟨fields, rfl, ?_⟩
      unfold text? at h
      split at h
      · rename_i found
        cases h
        exact found
      · cases h
    | _ => cases h
  · rintro ⟨fields, rfl, found⟩
    show (match fields.lookup key with | some (.text value) => some value | _ => none) = _
    rw [found]

/-- Records with the same keys in the same order, and values that are related as
their key says. -/
def Fieldwise (change : String → Data α → Data α → Prop) : Data α → Data α → Prop
  | .record fields, .record fields' =>
    List.Forall₂ (fun named named' => named.1 = named'.1 ∧ change named.1 named.2 named'.2)
      fields fields'
  | _, _ => False

def Listwise (change : List (Data α) → List (Data α) → Prop) : Data α → Data α → Prop
  | .list items, .list items' => change items items'
  | _, _ => False

end Data

/-- Lists of items that are related one by one, in whatever order. -/
def Shuffled (R : β → γ → Prop) (bs : List β) (cs : List γ) : Prop :=
  ∃ ordered, bs.Perm ordered ∧ List.Forall₂ R ordered cs

namespace Shuffled

variable {R : β → γ → Prop} {bs : List β} {cs : List γ}

theorem exists_left (shuffled : Shuffled R bs cs) {c : γ} (mem : c ∈ cs) : ∃ b ∈ bs, R b c := by
  obtain ⟨ordered, perm, related⟩ := shuffled
  obtain ⟨b, present, found⟩ := beside_left related mem
  exact ⟨b, perm.mem_iff.2 present, found⟩

theorem exists_right (shuffled : Shuffled R bs cs) {b : β} (mem : b ∈ bs) : ∃ c ∈ cs, R b c := by
  obtain ⟨ordered, perm, related⟩ := shuffled
  exact beside_left related.flip (perm.mem_iff.1 mem)

theorem map_perm (shuffled : Shuffled R bs cs) {f : β → κ} {g : γ → κ}
    (kept : ∀ {b c}, R b c → g c = f b) : (bs.map f).Perm (cs.map g) := by
  obtain ⟨ordered, perm, related⟩ := shuffled
  rw [beside_map_eq related kept]
  exact perm.map f

theorem append {bs' : List β} {cs' : List γ} (first : Shuffled R bs cs)
    (second : Shuffled R bs' cs') : Shuffled R (bs ++ bs') (cs ++ cs') := by
  obtain ⟨ordered, perm, related⟩ := first
  obtain ⟨ordered', perm', related'⟩ := second
  exact ⟨ordered ++ ordered', perm.append perm', List.rel_append related related'⟩

theorem map {δ ε : Type} {S : δ → ε → Prop} (shuffled : Shuffled R bs cs) {f : β → δ} {g : γ → ε}
    (kept : ∀ {b c}, R b c → S (f b) (g c)) : Shuffled S (bs.map f) (cs.map g) := by
  obtain ⟨ordered, perm, related⟩ := shuffled
  refine ⟨ordered.map f, perm.map f, ?_⟩
  rw [List.forall₂_map_left_iff, List.forall₂_map_right_iff]
  exact related.imp fun _ _ => kept

theorem imp {S : β → γ → Prop} (shuffled : Shuffled R bs cs) (implies : ∀ b c, R b c → S b c) :
    Shuffled S bs cs := by
  obtain ⟨ordered, perm, related⟩ := shuffled
  exact ⟨ordered, perm, related.imp implies⟩

theorem of_mem (shuffled : Shuffled R bs cs) : Shuffled (fun b c => b ∈ bs ∧ R b c) bs cs := by
  obtain ⟨ordered, perm, related⟩ := shuffled
  have listed : ∀ b ∈ ordered, b ∈ bs := fun b mem => perm.mem_iff.2 mem
  exact ⟨ordered, perm, (List.forall₂_and_left ordered cs).2 ⟨listed, related⟩⟩

/-- What is shuffled after a map is shuffled before it. -/
theorem of_map {δ ε : Type} {S : δ → ε → Prop} {f : β → δ} {g : γ → ε}
    (shuffled : Shuffled S (bs.map f) (cs.map g)) : Shuffled (fun b c => S (f b) (g c)) bs cs := by
  obtain ⟨ordered, perm, related⟩ := shuffled
  have images : List.Forall₂ (fun image b => image = f b) (bs.map f) bs := by
    rw [List.forall₂_map_left_iff, List.forall₂_same]
    exact fun _ _ => rfl
  obtain ⟨before, same, perm'⟩ := List.perm_comp_forall₂ perm.symm images
  have ordered_eq : ordered = before.map f := by
    simpa using (beside_map_eq (f := id) (g := f) same fun image => image.symm).symm
  rw [ordered_eq, List.forall₂_map_left_iff, List.forall₂_map_right_iff] at related
  exact ⟨before, perm'.symm, related⟩

end Shuffled

namespace Document

/-- Data that was changed is read as a value related to the one that was read
before. -/
def Carries (read : Reader α β) (change : Data α → Data α → Prop) (R : β → β → Prop) : Prop :=
  ∀ ⦃data data' b⦄, change data data' → read data = .accept b →
    ∃ b', read data' = .accept b' ∧ R b b'

/-- The same of a field that may be absent before and after. -/
def FieldCarries (read : FieldReader α β) (change : Data α → Data α → Prop)
    (R : β → β → Prop) : Prop :=
  ∀ ⦃data? data?' b⦄, Option.Rel change data? data?' → read data? = .accept b →
    ∃ b', read data?' = .accept b' ∧ R b b'

section
variable {read : Reader α β} {change : Data α → Data α → Prop} {R : β → β → Prop}

theorem carries_eq (read : Reader α β) : Carries read Eq Eq := by
  rintro data _ b rfl h
  exact ⟨b, h, rfl⟩

theorem Carries.required (carries : Carries read change R) :
    FieldCarries (required read) change R := by
  intro data? data?' b changed h
  cases changed with
  | none => cases h
  | some changed => exact carries changed h

theorem Carries.orElse (carries : Carries read change R) {default : β}
    (same : R default default) : FieldCarries (orElse default read) change R := by
  intro data? data?' b changed h
  cases changed with
  | none =>
    obtain rfl := pure_eq_accept.1 h
    exact ⟨default, rfl, same⟩
  | some changed => exact carries changed h

theorem lookup_fieldwise {change : String → Data α → Data α → Prop}
    {fields fields' : List (String × Data α)}
    (changed : Data.Fieldwise change (.record fields) (.record fields')) (key : String) :
    Option.Rel (change key) (fields.lookup key) (fields'.lookup key) := by
  replace changed : List.Forall₂ _ fields fields' := changed
  induction changed with
  | nil => exact .none
  | @cons named named' rest rest' both _ ih =>
    obtain ⟨name, value⟩ := named
    obtain ⟨name', value'⟩ := named'
    obtain ⟨rfl, related⟩ : name = name' ∧ change name value value' := both
    rw [List.lookup_cons, List.lookup_cons]
    by_cases here : key = name
    · subst here
      rw [beq_self_eq_true]
      exact .some related
    · rw [beq_eq_false_iff_ne.2 here]
      exact ih

/-- A field of a changed record. -/
theorem FieldCarries.field {read : FieldReader α β} {change : String → Data α → Data α → Prop}
    (key : String) (carries : FieldCarries read (change key) R)
    {fields fields' : List (String × Data α)}
    (changed : Data.Fieldwise change (.record fields) (.record fields')) {b : β}
    (h : Document.field fields key read = .accept b) :
    ∃ b', Document.field fields' key read = .accept b' ∧ R b b' := by
  obtain ⟨b', accepted, related⟩ :=
    carries (lookup_fieldwise changed key) (field_eq_accept.1 h)
  exact ⟨b', field_eq_accept.2 accepted, related⟩

/-- A field that the change leaves alone. -/
theorem field_unchanged {read : FieldReader α β} {change : String → Data α → Data α → Prop}
    {key : String} (untouched : change key = Eq) {fields fields' : List (String × Data α)}
    (changed : Data.Fieldwise change (.record fields) (.record fields')) {b : β}
    (h : Document.field fields key read = .accept b) :
    Document.field fields' key read = .accept b := by
  have eq : FieldCarries read (change key) Eq := by
    intro data? data?' b same accepted
    rw [untouched] at same
    cases same with
    | none => exact ⟨b, accepted, rfl⟩
    | some same => exact ⟨b, same ▸ accepted, rfl⟩
  obtain ⟨b', accepted, rfl⟩ := eq.field key changed h
  exact accepted

end

variable [Arithmetic α] {read : Reader α β} {change : Data α → Data α → Prop} {R : β → β → Prop}

omit [Arithmetic α] in
theorem items_eq_accept {values : List (Data α)} {bs : List β} :
    items read values = .accept bs ↔
      List.Forall₂ (fun value b => read value = .accept b) values bs := by
  constructor
  · intro h
    exact (each_forall₂ h).imp fun value b ⟨_, accepted⟩ => under_eq_accept.1 accepted
  · intro h
    unfold items
    generalize ([] : List (Data α)) = earlier
    induction h generalizing earlier with
    | nil => exact each_nil_eq_accept.2 rfl
    | cons accepted _ ih =>
      exact each_cons_eq_accept.2 ⟨_, _, under_eq_accept.2 accepted, ih _, rfl⟩

theorem list_eq_accept {data : Data α} {bs : List β} :
    list read data = .accept bs ↔ ∃ values, data = .list values ∧
      List.Forall₂ (fun value b => read value = .accept b) values bs := by
  constructor
  · intro h
    unfold list at h
    split at h
    · exact ⟨_, rfl, items_eq_accept.1 h⟩
    · cases h
  · rintro ⟨values, rfl, accepted⟩
    exact items_eq_accept.2 accepted

theorem list_carries {change : List (Data α) → List (Data α) → Prop}
    {R : List β → List β → Prop}
    (carries : ∀ {values values' bs}, change values values' →
      List.Forall₂ (fun value b => read value = .accept b) values bs →
      ∃ bs', List.Forall₂ (fun value b => read value = .accept b) values' bs' ∧ R bs bs') :
    Carries (list read) (Data.Listwise change) R := by
  intro data data' bs changed h
  obtain ⟨values, rfl, accepted⟩ := list_eq_accept.1 h
  cases data' with
  | list values' =>
    obtain ⟨bs', accepted', related⟩ := carries changed accepted
    exact ⟨bs', list_eq_accept.2 ⟨values', rfl, accepted'⟩, related⟩
  | _ => cases changed

omit [Arithmetic α] in
theorem forall₂_carries (carries : Carries read change R) {values values' : List (Data α)}
    {bs : List β} (changed : List.Forall₂ change values values')
    (accepted : List.Forall₂ (fun value b => read value = .accept b) values bs) :
    ∃ bs', List.Forall₂ (fun value b => read value = .accept b) values' bs' ∧
      List.Forall₂ R bs bs' := by
  induction changed generalizing bs with
  | nil =>
    cases accepted
    exact ⟨[], .nil, .nil⟩
  | cons first _ ih =>
    cases accepted with
    | cons here later =>
      obtain ⟨b', there, related⟩ := carries first here
      obtain ⟨bs', accepted', others⟩ := ih later
      exact ⟨b' :: bs', .cons there accepted', .cons related others⟩

/-- Lists whose items change in their places. -/
theorem Carries.forall₂ (carries : Carries read change R) :
    Carries (list read) (Data.Listwise (List.Forall₂ change)) (List.Forall₂ R) :=
  list_carries (forall₂_carries carries)

/-- Lists whose items change and are reordered. -/
theorem Carries.shuffled (carries : Carries read change R) :
    Carries (list read) (Data.Listwise (Shuffled change)) (Shuffled R) := by
  refine list_carries ?_
  rintro values values' bs ⟨ordered, perm, changed⟩ accepted
  obtain ⟨bs', accepted', reordered⟩ := List.perm_comp_forall₂ perm.symm accepted
  obtain ⟨cs, accepted'', related⟩ := forall₂_carries carries changed accepted'
  exact ⟨cs, accepted'', bs', reordered.symm, related⟩

/-- Lists whose items are reordered as they are. -/
theorem list_perm : Carries (list read) (Data.Listwise List.Perm) List.Perm := by
  refine list_carries ?_
  intro values values' bs perm accepted
  obtain ⟨bs', accepted', reordered⟩ := List.perm_comp_forall₂ perm.symm accepted
  exact ⟨bs', accepted', reordered.symm⟩

theorem record_carries {read : List (String × Data α) → Checked Issue β}
    {change : String → Data α → Data α → Prop}
    (carries : ∀ {fields fields' b}, Data.Fieldwise change (.record fields) (.record fields') →
      read fields = .accept b → ∃ b', read fields' = .accept b' ∧ R b b') :
    Carries (record read) (Data.Fieldwise change) R := by
  intro data data' b changed h
  obtain ⟨fields, rfl, accepted⟩ := record_eq_accept.1 h
  cases data' with
  | record fields' => exact carries changed accepted
  | _ => cases changed

/-! ### Graphs, materials, documents -/

section
variable (nodes links graphs materials groups : Data α → Data α → Prop)

/-- A change to the nodes and the links of a graph. -/
def graphChange : Data α → Data α → Prop :=
  Data.Fieldwise fun key => if key = "nodes" then nodes else if key = "links" then links else Eq

def materialChange : Data α → Data α → Prop :=
  Data.Fieldwise fun key => if key = "graph" then graphs else Eq

def documentChange : Data α → Data α → Prop :=
  Data.Fieldwise fun key =>
    if key = "materials" then materials else if key = "groups" then groups else Eq

end

section
variable {nodes links graphs materials groups : Data α → Data α → Prop}

theorem graph_carries {N : List (Node α String) → List (Node α String) → Prop}
    {L : List Link → List Link → Prop} (hnodes : Carries (list node) nodes N)
    (hlinks : Carries (list link) links L) (unlinked : L [] []) :
    Carries graph (graphChange nodes links) fun before after =>
      after.id = before.id ∧ after.name = before.name ∧ N before.nodes after.nodes ∧
        L before.links after.links := by
  refine record_carries ?_
  intro fields fields' b changed h
  obtain ⟨id, name, ns, ls, hid, hname, hns, hls, rfl⟩ := map₄_eq_accept.1 h
  obtain ⟨ns', hns', nodesRelated⟩ := hnodes.required.field "nodes" changed hns
  obtain ⟨ls', hls', linksRelated⟩ := (hlinks.orElse unlinked).field "links" changed hls
  refine ⟨⟨id, name, ns', ls'⟩, map₄_eq_accept.2 ⟨id, name, ns', ls', ?_, ?_, hns', hls', rfl⟩,
    rfl, rfl, nodesRelated, linksRelated⟩
  · exact field_unchanged rfl changed hid
  · exact field_unchanged rfl changed hname

theorem material_carries {G : Graph α String → Graph α String → Prop}
    (hgraphs : Carries graph graphs G) :
    Carries material (materialChange graphs) fun before after =>
      after.name = before.name ∧ G before.graph after.graph := by
  refine record_carries ?_
  intro fields fields' b changed h
  obtain ⟨name, g, hname, hg, rfl⟩ := map₂_eq_accept.1 h
  obtain ⟨g', hg', related⟩ := hgraphs.required.field "graph" changed hg
  refine ⟨⟨name, g'⟩, map₂_eq_accept.2 ⟨name, g', ?_, hg', rfl⟩, rfl, related⟩
  exact field_unchanged rfl changed hname

theorem read_carries {M : List (Material α String) → List (Material α String) → Prop}
    {G : List (Graph α String) → List (Graph α String) → Prop}
    (hmaterials : Carries (list material) materials M) (hgroups : Carries (list graph) groups G)
    (groupless : G [] []) :
    FieldCarries Document.read (documentChange materials groups) fun before after =>
      M before.materials after.materials ∧ G before.groups after.groups := by
  refine Carries.required (record_carries ?_)
  intro fields fields' b changed h
  obtain ⟨_, ms, gs, hversion, hms, hgs, rfl⟩ := map₃_eq_accept.1 h
  obtain ⟨ms', hms', materialsRelated⟩ := hmaterials.required.field "materials" changed hms
  obtain ⟨gs', hgs', groupsRelated⟩ :=
    (hgroups.orElse groupless).field "groups" changed hgs
  refine ⟨⟨ms', gs'⟩, map₃_eq_accept.2 ⟨(), ms', gs', ?_, hms', hgs', rfl⟩,
    materialsRelated, groupsRelated⟩
  exact field_unchanged rfl changed hversion

end

end Document
end ShadeGraph
