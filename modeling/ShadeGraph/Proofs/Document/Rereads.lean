import ShadeGraph.Document.Write
import ShadeGraph.Proofs.Document.Listed

/-!
# Values that read as they are written

A value that was read is written in a form that reads as the same value, even
where it was read from another form: a default is spelled out, and the colour of
a stop gets the alpha that it was given. Of numbers this asks only that one is
equal to itself, because the alpha of a stop is one by default.
-/

namespace ShadeGraph.Document

open Checked

variable {α β γ : Type}

/-- What is read in is read again from what is written of it. -/
def Rereads (read : Reader α β) (write : β → Data α) : Prop :=
  ∀ ⦃data b⦄, read data = .accept b → read (write b) = .accept b

/-- The same of a field, which may be left out. -/
def FieldRereads (read : FieldReader α β) (write : β → Option (Data α)) : Prop :=
  ∀ ⦃data? b⦄, read data? = .accept b → read (write b) = .accept b

section
variable {read : Reader α β} {write : β → Data α}

theorem Rereads.required (again : Rereads read write) :
    FieldRereads (required read) fun b => some (write b) := by
  intro data? b h
  obtain ⟨data, accepted⟩ := required_accept h
  exact again accepted

theorem Rereads.variant (again : Rereads read write) :
    FieldRereads (variant read) fun b => some (write b) := by
  intro data? b h
  cases data? with
  | none => cases h
  | some data => exact again h

theorem Rereads.optional (again : Rereads read write) :
    FieldRereads (optional read) (Option.map write) := by
  intro data? b? h
  cases data? with
  | none =>
    obtain rfl := pure_eq_accept.1 h
    rfl
  | some data =>
    obtain ⟨b, accepted, rfl⟩ := map_eq_accept.1 h
    exact map_eq_accept.2 ⟨b, again accepted, rfl⟩

/-- A default, once spelled out, has to be readable. -/
theorem Rereads.orElse (again : Rereads read write) (default : β)
    (readable : read (write default) = .accept default) :
    FieldRereads (orElse default read) fun b => some (write b) := by
  intro data? b h
  obtain rfl | ⟨data, accepted⟩ := orElse_accept h
  · exact readable
  · exact again accepted

theorem FieldRereads.field {read : FieldReader α β} {write : β → Option (Data α)}
    (again : FieldRereads read write) {fields fields' : List (String × Data α)} {key : String}
    {b : β} (h : Document.field fields key read = .accept b)
    (kept : fields'.lookup key = write b) : Document.field fields' key read = .accept b := by
  rw [field_eq_accept] at h ⊢
  rw [kept]
  exact again h

end

variable [Arithmetic α]

section
variable {read : Reader α β} {write : β → Data α}

omit [Arithmetic α] in
theorem Rereads.items (again : Rereads read write) {data : List (Data α)} {bs : List β}
    (h : items read data = .accept bs) : items read (bs.map write) = .accept bs := by
  refine each_again ?_ h []
  intro before item b accepted prior
  exact under_eq_accept.2 (again (under_eq_accept.1 accepted))

theorem Rereads.list (again : Rereads read write) :
    Rereads (list read) fun bs => .list (bs.map write) := by
  intro data bs h
  unfold Document.list at h
  split at h
  · exact again.items h
  · cases h

theorem Rereads.nonemptyList (again : Rereads read write) :
    Rereads (nonemptyList read) fun bs => .list (bs.map write) := by
  intro data bs h
  unfold Document.nonemptyList at h
  split at h
  · rename_i values
    split at h
    · cases h
    · rename_i nonempty
      have same : bs.length = values.length := (each_forall₂ h).length_eq.symm
      have kept : (bs.map write).isEmpty = false := by
        cases values with
        | nil => exact absurd rfl nonempty
        | cons value rest =>
          cases bs with
          | nil => cases same
          | cons b others => rfl
      show (if (bs.map write).isEmpty then _ else Document.items read (bs.map write)) = _
      rw [kept]
      exact again.items h
  · cases h

end

theorem text_rereads : Rereads (α := α) text .text := by
  intro data s h
  rfl

theorem nonemptyText_rereads : Rereads (α := α) nonemptyText .text := by
  intro data s h
  unfold nonemptyText at h
  split at h
  · split at h
    · cases h
    · rename_i value nonempty
      obtain rfl := pure_eq_accept.1 h
      exact if_neg nonempty
  · cases h

theorem boolean_rereads : Rereads (α := α) boolean .bool := by
  intro data b h
  rfl

theorem oneOf_text {options : List String} {s : String} (listed : s ∈ options) :
    oneOf options (.text s : Data α) = .accept s :=
  if_pos listed

theorem oneOf_rereads (options : List String) : Rereads (α := α) (oneOf options) .text := by
  intro data s h
  exact oneOf_text (oneOf_accept h)

/-! ### Numbers and colours -/

theorem number?_again {data : Data α} {x : α} (h : number? data = some x) :
    number? (.number x) = some x := by
  unfold number? at h
  split at h
  · split at h
    · rename_i value itself
      cases h
      exact if_pos itself
    · cases h
  · cases h

theorem number_eq_accept {data : Data α} {x : α} :
    number data = .accept x ↔ number? data = some x := by
  unfold number
  cases number? data with
  | none => exact ⟨fun h => (by cases h), fun h => (by cases h)⟩
  | some value => exact ⟨fun h => congrArg some (accept_inj h), fun h => by cases h; rfl⟩

theorem number_rereads : Rereads (α := α) number .number := by
  intro data x h
  exact number_eq_accept.2 (number?_again (number_eq_accept.1 h))

/-- Numbers that are read from what is written of them. -/
def Readable (numbers : List α) : Prop := ∀ x ∈ numbers, number? (.number x) = some x

theorem tripleFit_readable {data : Data α} {v : Vec3 α} (h : tripleFit data = .exact v) :
    Readable v.toList := by
  unfold tripleFit at h
  split at h
  · split at h
    · rename_i hx hy hz
      split at h
      · cases h
        simp [Readable, Vec3.toList, number?_again hx, number?_again hy, number?_again hz]
      · cases h
    · cases h
  · cases h

theorem quadrupleFit_readable {data : Data α} {c : Rgba α} (h : quadrupleFit data = .exact c) :
    Readable (c.rgb.toList ++ [c.alpha]) := by
  unfold quadrupleFit at h
  split at h
  · split at h
    · rename_i hx hy hz hw
      split at h
      · cases h
        simp [Readable, Vec3.toList, number?_again hx, number?_again hy, number?_again hz,
          number?_again hw]
      · cases h
    · cases h
  · cases h

theorem tripleFit_toData {v : Vec3 α} (readable : Readable v.toList) :
    tripleFit v.toData = .exact v := by
  obtain ⟨hx, hy, hz⟩ : number? (.number v.x) = some v.x ∧ number? (.number v.y) = some v.y ∧
      number? (.number v.z) = some v.z := by
    simpa [Readable, Vec3.toList] using readable
  simp [tripleFit, Vec3.toData, Vec3.toList, hx, hy, hz]

/-- Four channels are read as four, not as three. -/
theorem quadrupleFit_toData {c : Rgba α} (readable : Readable (c.rgb.toList ++ [c.alpha])) :
    quadrupleFit c.toData = .exact c ∧ tripleFit c.toData = .tooLong 3 := by
  obtain ⟨hx, hy, hz, hw⟩ : number? (.number c.rgb.x) = some c.rgb.x ∧
      number? (.number c.rgb.y) = some c.rgb.y ∧ number? (.number c.rgb.z) = some c.rgb.z ∧
      number? (.number c.alpha) = some c.alpha := by
    simpa [Readable, Vec3.toList] using readable
  simp [quadrupleFit, tripleFit, Rgba.toData, Vec3.toList, hx, hy, hz, hw]

theorem map_eq_exact {f : β → γ} {fit : Fit β} {c : γ} :
    fit.map f = .exact c ↔ ∃ b, fit = .exact b ∧ f b = c := by
  cases fit with
  | exact b => simp [Fit.map]
  | tooLong limit => simp [Fit.map]
  | misfit => simp [Fit.map]

theorem strict_eq_exact {fit : Fit β} {b : β} : fit.strict = .exact b ↔ fit = .exact b := by
  cases fit with
  | exact b => exact Iff.rfl
  | tooLong limit => exact ⟨fun h => (by cases h), fun h => (by cases h)⟩
  | misfit => exact Iff.rfl

/-- A union takes its value from a variant that fits. -/
theorem first_accept {fits : List (Fit β)} {b : β} (h : Fit.first fits = .accept b) :
    .exact b ∈ fits := by
  unfold Fit.first at h
  split at h
  · rename_i value found
    obtain rfl := pure_eq_accept.1 h
    obtain ⟨fit, mem, exact⟩ := List.exists_of_findSome?_eq_some found
    cases fit with
    | exact b => cases exact; exact mem
    | tooLong limit => cases exact
    | misfit => cases exact
  · cases h
  · cases h

theorem color_rereads : Rereads (α := α) color ColorValue.toData := by
  intro data c h
  obtain triple | quadruple : (tripleFit data).map .rgb = .exact c ∨
      (quadrupleFit data).map .rgba = .exact c := by
    simpa [eq_comm] using first_accept h
  · obtain ⟨v, exact, rfl⟩ := map_eq_exact.1 triple
    show Fit.first [(tripleFit v.toData).map _, _] = _
    rw [tripleFit_toData (tripleFit_readable exact)]
    rfl
  · obtain ⟨w, exact, rfl⟩ := map_eq_exact.1 quadruple
    obtain ⟨four, notThree⟩ := quadrupleFit_toData (quadrupleFit_readable exact)
    show Fit.first [(tripleFit w.toData).map _, (quadrupleFit w.toData).map _] = _
    rw [four, notThree]
    rfl

theorem socketValue_rereads : Rereads (α := α) socketValue SocketValue.toData := by
  intro data v h
  obtain scalar | triple | quadruple : (scalarFit data).map .scalar = .exact v ∨
      (tripleFit data).map (.color ∘ .rgb) = .exact v ∨
      (quadrupleFit data).map (.color ∘ .rgba) = .exact v := by
    simpa [eq_comm] using first_accept h
  · obtain ⟨x, exact, rfl⟩ := map_eq_exact.1 scalar
    have again : scalarFit (.number x) = .exact x := by
      unfold scalarFit at exact ⊢
      split at exact
      · rename_i found
        cases exact
        rw [number?_again found]
      · cases exact
    show Fit.first [(scalarFit (.number x)).map _, _, _] = _
    rw [again]
    rfl
  · obtain ⟨c, exact, rfl⟩ := map_eq_exact.1 triple
    show Fit.first [.misfit, (tripleFit c.toData).map _, _] = _
    rw [tripleFit_toData (tripleFit_readable exact)]
    rfl
  · obtain ⟨c, exact, rfl⟩ := map_eq_exact.1 quadruple
    obtain ⟨four, notThree⟩ := quadrupleFit_toData (quadrupleFit_readable exact)
    show Fit.first [.misfit, (tripleFit c.toData).map _, (quadrupleFit c.toData).map _] = _
    rw [four, notThree]
    rfl

/-- The alpha that a stop without one is given is written and read as a number. -/
theorem stopColor_rereads (one : ((1 : α) == 1) = true) :
    Rereads (α := α) stopColor Rgba.toData := by
  intro data c h
  have readable : Readable (c.rgb.toList ++ [c.alpha]) := by
    obtain quadruple | triple : quadrupleFit data = .exact c ∨
        ((tripleFit data).map fun rgb => (⟨rgb, 1⟩ : Rgba α)).strict = .exact c := by
      simpa [eq_comm] using first_accept h
    · exact quadrupleFit_readable quadruple
    · obtain ⟨v, exact, rfl⟩ := map_eq_exact.1 (strict_eq_exact.1 triple)
      intro x mem
      obtain channel | alpha := List.mem_append.1 mem
      · exact tripleFit_readable exact x channel
      · obtain rfl := List.mem_singleton.1 alpha
        exact if_pos one
  show Fit.first [quadrupleFit c.toData, _] = _
  rw [(quadrupleFit_toData readable).1]
  rfl

theorem stop_rereads (one : ((1 : α) == 1) = true) : Rereads (α := α) stop RampStop.toData := by
  intro data s h
  obtain ⟨fields, h⟩ := record_accept h
  obtain ⟨position, color, hposition, hcolor, rfl⟩ := map₂_eq_accept.1 h
  exact map₂_eq_accept.2 ⟨position, color, number_rereads.required.field hposition rfl,
    (stopColor_rereads one).variant.field hcolor rfl, rfl⟩

end ShadeGraph.Document
