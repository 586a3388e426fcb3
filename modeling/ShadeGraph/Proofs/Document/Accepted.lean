import Mathlib.Data.List.Forall2
import ShadeGraph.Document.Read

/-!
# Accepted checks

A combination of checks accepts exactly when its parts do, and then its value is
the combination of theirs. Nothing else about a check is needed to know what an
accepted document is like.
-/

namespace ShadeGraph

section
variable {α β κ : Type} {R : α → β → Prop} {as : List α} {bs : List β}

theorem beside_left (h : List.Forall₂ R as bs) {b : β} (mem : b ∈ bs) : ∃ a ∈ as, R a b := by
  induction h with
  | nil => cases mem
  | cons related _ ih =>
    cases mem with
    | head => exact ⟨_, List.mem_cons_self, related⟩
    | tail _ later =>
      obtain ⟨a, present, related⟩ := ih later
      exact ⟨a, List.mem_cons_of_mem _ present, related⟩

theorem beside_map_eq {f : α → κ} {g : β → κ} (h : List.Forall₂ R as bs)
    (kept : ∀ {a b}, R a b → g b = f a) : bs.map g = as.map f := by
  induction h with
  | nil => rfl
  | cons related _ ih => rw [List.map_cons, List.map_cons, kept related, ih]

end

namespace Checked

variable {ε α β γ δ κ : Type}

theorem accept_inj {a b : α} (h : (accept a : Checked ε α) = accept b) : a = b := by
  cases h
  rfl

theorem pure_eq_accept {a b : α} : (pure a : Checked ε α) = accept b ↔ a = b :=
  ⟨accept_inj, fun h => h ▸ rfl⟩

theorem map_eq_accept {f : α → β} {x : Checked ε α} {b : β} :
    f <$> x = accept b ↔ ∃ a, x = accept a ∧ f a = b := by
  cases x with
  | accept a => exact ⟨fun h => ⟨a, rfl, accept_inj h⟩, fun ⟨_, h, hb⟩ => hb ▸ accept_inj h ▸ rfl⟩
  | refuse first rest => exact ⟨fun h => (by cases h), fun ⟨_, h, _⟩ => (by cases h)⟩

theorem seq_eq_accept {f : Checked ε (α → β)} {x : Checked ε α} {b : β} :
    f <*> x = accept b ↔ ∃ g a, f = accept g ∧ x = accept a ∧ g a = b := by
  constructor
  · intro h
    cases f with
    | refuse first rest => cases h
    | accept g =>
      cases x with
      | refuse first rest => cases h
      | accept a => exact ⟨g, a, rfl, rfl, accept_inj h⟩
  · rintro ⟨g, a, rfl, rfl, rfl⟩
    rfl

theorem seqRight_eq_accept {x : Checked ε α} {y : Checked ε β} {b : β} :
    x *> y = accept b ↔ (∃ a, x = accept a) ∧ y = accept b := by
  constructor
  · intro h
    obtain ⟨g, b', hg, hy, same⟩ := seq_eq_accept.1 h
    obtain ⟨a, ha, hga⟩ := map_eq_accept.1 hg
    subst hga
    exact ⟨⟨a, ha⟩, hy.trans (congrArg accept same)⟩
  · rintro ⟨⟨a, rfl⟩, rfl⟩
    rfl

theorem map₂_eq_accept {f : α → β → γ} {x : Checked ε α} {y : Checked ε β} {c : γ} :
    f <$> x <*> y = accept c ↔ ∃ a b, x = accept a ∧ y = accept b ∧ f a b = c := by
  constructor
  · intro h
    obtain ⟨make, b, hmake, hb, rfl⟩ := seq_eq_accept.1 h
    obtain ⟨a, ha, rfl⟩ := map_eq_accept.1 hmake
    exact ⟨a, b, ha, hb, rfl⟩
  · rintro ⟨a, b, rfl, rfl, rfl⟩
    rfl

theorem map₃_eq_accept {f : α → β → γ → δ} {x : Checked ε α} {y : Checked ε β}
    {z : Checked ε γ} {d : δ} :
    f <$> x <*> y <*> z = accept d ↔
      ∃ a b c, x = accept a ∧ y = accept b ∧ z = accept c ∧ f a b c = d := by
  constructor
  · intro h
    obtain ⟨make, c, hmake, hc, rfl⟩ := seq_eq_accept.1 h
    obtain ⟨a, b, ha, hb, rfl⟩ := map₂_eq_accept.1 hmake
    exact ⟨a, b, c, ha, hb, hc, rfl⟩
  · rintro ⟨a, b, c, rfl, rfl, rfl, rfl⟩
    rfl

theorem map₄_eq_accept {f : α → β → γ → δ → κ} {x : Checked ε α} {y : Checked ε β}
    {z : Checked ε γ} {w : Checked ε δ} {e : κ} :
    f <$> x <*> y <*> z <*> w = accept e ↔
      ∃ a b c d, x = accept a ∧ y = accept b ∧ z = accept c ∧ w = accept d ∧ f a b c d = e := by
  constructor
  · intro h
    obtain ⟨make, d, hmake, hd, rfl⟩ := seq_eq_accept.1 h
    obtain ⟨a, b, c, ha, hb, hc, rfl⟩ := map₃_eq_accept.1 hmake
    exact ⟨a, b, c, d, ha, hb, hc, hd, rfl⟩
  · rintro ⟨a, b, c, d, rfl, rfl, rfl, rfl, rfl⟩
    rfl

theorem mapErrors_eq_accept {f : ε → ε} {x : Checked ε α} {a : α} :
    x.mapErrors f = accept a ↔ x = accept a := by
  cases x with
  | accept b => exact Iff.rfl
  | refuse first rest => exact ⟨fun h => (by cases h), fun h => (by cases h)⟩

theorem andThen_eq_accept {x : Checked ε α} {f : α → Checked ε β} {b : β} :
    x.andThen f = accept b ↔ ∃ a, x = accept a ∧ f a = accept b := by
  cases x with
  | accept a => exact ⟨fun h => ⟨a, rfl, h⟩, fun ⟨_, h, hb⟩ => accept_inj h ▸ hb⟩
  | refuse first rest => exact ⟨fun h => (by cases h), fun ⟨_, h, _⟩ => (by cases h)⟩

theorem require_eq_accept {ok : Bool} {error : ε} {u : Unit} :
    require ok error = accept u ↔ ok = true := by
  cases ok with
  | false => exact ⟨fun h => (by cases h), fun h => (by cases h)⟩
  | true => exact ⟨fun _ => rfl, fun _ => rfl⟩

section
variable {check : List α → α → Checked ε β} {earlier rest : List α} {item : α} {out : List β}

theorem each_nil_eq_accept : each check earlier [] = accept out ↔ out = [] :=
  ⟨fun h => (accept_inj h).symm, fun h => h ▸ rfl⟩

theorem each_cons_eq_accept : each check earlier (item :: rest) = accept out ↔
    ∃ b bs, check earlier item = accept b ∧
      each check (earlier ++ [item]) rest = accept bs ∧ out = b :: bs := by
  rw [each, seq_eq_accept]
  constructor
  · rintro ⟨g, bs, hg, hbs, rfl⟩
    obtain ⟨b, hb, rfl⟩ := map_eq_accept.1 hg
    exact ⟨b, bs, hb, hbs, rfl⟩
  · rintro ⟨b, bs, hb, hbs, rfl⟩
    exact ⟨List.cons b, bs, map_eq_accept.2 ⟨b, hb, rfl⟩, hbs, rfl⟩

/-- What comes out lies beside what it was made of. -/
theorem each_forall₂ {items : List α} (h : each check earlier items = accept out) :
    List.Forall₂ (fun item b => ∃ before, check before item = accept b) items out := by
  induction items generalizing earlier out with
  | nil =>
    rw [each_nil_eq_accept.1 h]
    exact .nil
  | cons item rest ih =>
    obtain ⟨b, others, hfirst, hothers, rfl⟩ := each_cons_eq_accept.1 h
    exact .cons ⟨earlier, hfirst⟩ (ih hothers)

/-- Whatever comes out was made of an item. -/
theorem each_source {items : List α} (h : each check earlier items = accept out) {b : β}
    (mem : b ∈ out) : ∃ item ∈ items, ∃ before, check before item = accept b :=
  beside_left (each_forall₂ h) mem

/-- Every item made something that comes out. -/
theorem each_result {items : List α} (h : each check earlier items = accept out) {item : α}
    (mem : item ∈ items) : ∃ b ∈ out, ∃ before, check before item = accept b :=
  beside_left (each_forall₂ h).flip mem

/-- An image that no single check changes is the image of what comes out. -/
theorem each_map_eq {κ : Type} {f : α → κ} {g : β → κ}
    (kept : ∀ {before item b}, check before item = accept b → g b = f item) {items : List α}
    (h : each check earlier items = accept out) : out.map g = items.map f :=
  beside_map_eq (each_forall₂ h) fun ⟨_, made⟩ => kept made

/-- If what a check makes of an item can be checked anew, whatever stands before
it, so can the list of all that it makes. -/
theorem each_again {write : β → α}
    (again : ∀ {before item b}, check before item = accept b →
      ∀ prior, check prior (write b) = accept b)
    {items : List α}
    (h : each check earlier items = accept out) (prior : List α) :
    each check prior (out.map write) = accept out := by
  induction items generalizing earlier out prior with
  | nil =>
    obtain rfl := each_nil_eq_accept.1 h
    rfl
  | cons item rest ih =>
    obtain ⟨b, bs, hb, hbs, rfl⟩ := each_cons_eq_accept.1 h
    exact each_cons_eq_accept.2 ⟨b, bs, again hb prior, ih hbs _, rfl⟩

/-- A check that every item is new keeps a list without repetitions. -/
theorem each_nodup {κ : Type} {f : α → κ} (prior : List κ) {items : List α}
    (fresh : ∀ {before item b}, check before item = accept b → f item ∉ prior ++ before.map f)
    (h : each check earlier items = accept out) (nodup : (prior ++ earlier.map f).Nodup) :
    (prior ++ (earlier ++ items).map f).Nodup := by
  induction items generalizing earlier out with
  | nil => simpa using nodup
  | cons item rest ih =>
    obtain ⟨b, bs, hb, hbs, rfl⟩ := each_cons_eq_accept.1 h
    have next := ih hbs ?_
    · simpa using next
    · rw [List.map_append, ← List.append_assoc, List.nodup_append]
      refine ⟨nodup, by simp, ?_⟩
      intro k mem k' mem' same
      subst same
      rw [List.map_singleton, List.mem_singleton] at mem'
      exact fresh hb (mem' ▸ mem)

end

theorem vector_accept {k : Nat} {check : Fin k → Checked ε α} {v : Vector α k}
    (h : vector check = accept v) (i : Fin k) : check i = accept (v.get i) := by
  induction k with
  | zero => exact i.elim0
  | succ k ih =>
    obtain ⟨g, last, hg, hlast, rfl⟩ := seq_eq_accept.1 h
    obtain ⟨w, hw, rfl⟩ := map_eq_accept.1 hg
    induction i using Fin.lastCases with
    | last =>
      have top : (w.push last).get (Fin.last k) = last := Vector.getElem_push_last
      rw [top, hlast]
    | cast i =>
      have below : (w.push last).get i.castSucc = w.get i := Vector.getElem_push_lt i.isLt
      rw [below, ih hw i]

end Checked
end ShadeGraph
